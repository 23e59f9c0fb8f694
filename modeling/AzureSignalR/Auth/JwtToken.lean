import AzureSignalR.Auth.Base64UrlEncoder
import AzureSignalR.Auth.ClaimTypeMapping
import AzureSignalR.Library.WhiteSpace
import Mathlib.Data.List.Induction

/-!
Contract: access tokens, from claims to text and back.

Owns: `JwtPayload`, `JwtHeader`, `CreateJwtSecurityToken`, `GenerateAccessToken`, the values of
claims and times, the issuer that `TryParseIssuer` reads off a token, and the text of an
unauthorized exception.

Does not own: the JSON texts, the hash, the clock, the parsers of values and `TotalSeconds`, which
is a double; they belong to the libraries. Times are UTC ticks.
-/

set_option autoImplicit false

namespace AzureSignalR.Auth.JwtToken

open Base64UrlEncoder (Text encodeBytes base64UrlDecode symbol)
open Library.WhiteSpace (isNullOrWhiteSpace)

inductive AccessTokenAlgorithm where
  | HS256
  | HS512
deriving DecidableEq, Repr

structure Claim where
  type : String
  value : String
  valueType : String
deriving DecidableEq, Repr

inductive Failure where
  | base64 (failure : Base64UrlEncoder.Failure)
  /-- IDX12401, with the times. -/
  | expires (expires notBefore : Int)
  | argumentNull (name : String)
  | argumentOutOfRange
  | tokenTooLong
  | json (text : String)
deriving DecidableEq, Repr

/-- A value of the payload: an object, or the list that a second claim of the type makes. -/
inductive Entry (ν : Type) where
  | value (jsonClaimValue : ν)
  | list (claimValues : List ν)
deriving DecidableEq, Repr

/-- A dictionary in the order of its additions. -/
abbrev Payload (ν : Type) := List (String × Entry ν)

/-- What the libraries do. `tryGetIss` parses a JSON text and reads its property `iss`. -/
structure Libraries (ν : Type) where
  ofString : String → ν
  ofInt64 : Int → ν
  tryParseBoolean : String → Option ν
  tryParseDouble : String → Option ν
  tryParseInt32 : String → Option ν
  tryParseInt64 : String → Option ν
  tryParseDateTime : String → Option ν
  /-- `JObject.Parse`. -/
  parseObject : String → Except Failure ν
  /-- `JArray.Parse`. -/
  parseArray : String → Except Failure ν
  /-- `(long)TotalSeconds` of a time span. -/
  totalSeconds : Int → Int
  serializeObject : Payload ν → String
  computeHash : AccessTokenAlgorithm → Bytes → Bytes → Bytes
  getString : Bytes → String
  tryGetIss : String → Except Failure (Option String)

/-- `Encoding.UTF8.GetBytes`. -/
def utf8 (text : String) : Bytes := text.toByteArray.data.toList

section Token

variable {ν : Type} (libraries : Libraries ν)

/-! ## Values -/

def claimValueTypesString : String := "http://www.w3.org/2001/XMLSchema#string"

def claimValueTypesBoolean : String := "http://www.w3.org/2001/XMLSchema#boolean"

def claimValueTypesDouble : String := "http://www.w3.org/2001/XMLSchema#double"

def claimValueTypesInteger : String := "http://www.w3.org/2001/XMLSchema#integer"

def claimValueTypesInteger32 : String := "http://www.w3.org/2001/XMLSchema#integer32"

def claimValueTypesInteger64 : String := "http://www.w3.org/2001/XMLSchema#integer64"

def claimValueTypesDateTime : String := "http://www.w3.org/2001/XMLSchema#dateTime"

/-- The value of a type that has a parser, if the text parses. -/
def tryParse (claim : Claim) : Option ν :=
  if claim.valueType = claimValueTypesBoolean then libraries.tryParseBoolean claim.value
  else if claim.valueType = claimValueTypesDouble then libraries.tryParseDouble claim.value
  else if claim.valueType = claimValueTypesInteger ∨ claim.valueType = claimValueTypesInteger32 then
    libraries.tryParseInt32 claim.value
  else if claim.valueType = claimValueTypesInteger64 then libraries.tryParseInt64 claim.value
  else if claim.valueType = claimValueTypesDateTime then libraries.tryParseDateTime claim.value
  else none

/-- A text that does not parse stays a text, but for objects and arrays. -/
def getClaimValueUsingValueType (claim : Claim) : Except Failure ν :=
  if claim.valueType = claimValueTypesString then .ok (libraries.ofString claim.value)
  else match tryParse libraries claim with
    | some value => .ok value
    | none =>
        if claim.valueType = "JSON" then libraries.parseObject claim.value
        else if claim.valueType = "JSON_ARRAY" then libraries.parseArray claim.value
        else if claim.valueType = "JSON_NULL" then .ok (libraries.ofString "")
        else .ok (libraries.ofString claim.value)

def unixEpoch : Int := 621355968000000000

/-- `EpochTime.GetIntDate`. -/
def getIntDate (time : Int) : Int :=
  if time ≤ unixEpoch then 0 else libraries.totalSeconds (time - unixEpoch)

/-! ## The payload -/

/-- `this[key] = value`. -/
def setItem (payload : Payload ν) (key : String) (value : Entry ν) : Payload ν :=
  match payload with
  | [] => [(key, value)]
  | entry :: rest =>
      if entry.1 = key then (key, value) :: rest else entry :: setItem rest key value

/-- A claim behind those of its type. -/
def added (jsonClaimValue : ν) : Option (Entry ν) → Entry ν
  | some (.list claimValues) => .list (claimValues ++ [jsonClaimValue])
  | some (.value existingValue) => .list [existingValue, jsonClaimValue]
  | none => .value jsonClaimValue

def addClaim (payload : Payload ν) (claim : String × ν) : Payload ν :=
  setItem payload claim.1 (added claim.2 (payload.lookup claim.1))

/-- The type of a claim with the value that is put into the payload. -/
def typed (claim : Claim) : Except Failure (String × ν) := do
  let jsonClaimValue ←
    if claim.valueType = claimValueTypesString then pure (libraries.ofString claim.value)
    else getClaimValueUsingValueType libraries claim
  return (claim.type, jsonClaimValue)

/-- The values of the claims that are there. One that cannot be converted ends the construction of
the payload. -/
def claimValues : Option (List Claim) → Except Failure (List (String × ν))
  | some claims => claims.mapM (typed libraries)
  | none => .ok []

/-- Neither null nor empty. -/
def present : Option String → Option String
  | some text => if text = "" then none else some text
  | none => none

/-- `this[key] = EpochTime.GetIntDate(time)`. -/
def setTime (payload : Payload ν) (key : String) (time : Int) : Payload ν :=
  setItem payload key (.value (libraries.ofInt64 (getIntDate libraries time)))

def setTimes (payload : Payload ν) (notBefore expires : Option Int) :
    Except Failure (Payload ν) :=
  match expires, notBefore with
  | some expires, some notBefore =>
      if expires ≤ notBefore then .error (.expires expires notBefore)
      else .ok (setTime libraries (setTime libraries payload "nbf" notBefore) "exp" expires)
  | some expires, none => .ok (setTime libraries payload "exp" expires)
  | none, _ => .ok payload

def setIssuedAt (payload : Payload ν) : (issuedAt : Option Int) → Payload ν
  | some issuedAt => setTime libraries payload "iat" issuedAt
  | none => payload

def setIssuer (payload : Payload ν) (issuer : Option String) : Payload ν :=
  match present issuer with
  | some issuer => setItem payload "iss" (.value (libraries.ofString issuer))
  | none => payload

def addAudience (payload : Payload ν) (audience : Option String) : Payload ν :=
  match present audience with
  | some audience => addClaim payload ("aud", libraries.ofString audience)
  | none => payload

def jwtPayload (issuer audience : Option String) (claims : Option (List Claim))
    (notBefore expires issuedAt : Option Int) : Except Failure (Payload ν) := do
  let values ← claimValues libraries claims
  let payload ← setTimes libraries (values.foldl addClaim []) notBefore expires
  let payload := setIssuer libraries (setIssuedAt libraries payload issuedAt) issuer
  return addAudience libraries payload audience

/-! ## The token -/

def algorithmName : AccessTokenAlgorithm → String
  | .HS256 => "HS256"
  | .HS512 => "HS512"

def jwtHeader (kid : Option String) (algorithm : AccessTokenAlgorithm) : Payload ν :=
  [("alg", .value (libraries.ofString (algorithmName algorithm))),
    ("typ", .value (libraries.ofString "JWT"))] ++
  match kid with
  | some kid => [("kid", .value (libraries.ofString kid))]
  | none => []

def base64UrlEncode (payload : Payload ν) : Except Failure Text :=
  (encodeBytes (utf8 (libraries.serializeObject payload))).mapError .base64

def outboundClaimTypeTransform (claim : Claim) : Claim :=
  match ClaimTypeMapping.outboundClaimTypeMap claim.type with
  | some type => { claim with type }
  | none => claim

/-- The arguments of `CreateJwtSecurityToken`. -/
structure TokenOptions where
  notBefore : Option Int := none
  expires : Option Int := none
  issuedAt : Option Int := none
  issuer : Option String := none
  audience : Option String := none
  subject : Option (List Claim) := none
  key : Option Bytes := none
  kid : Option String := none
  algorithm : AccessTokenAlgorithm := .HS256

def ticksPerMinute : Int := 600000000

def checkText (name : String) (text : Text) : Except Failure Unit :=
  if isNullOrWhiteSpace (some (String.ofList text)) then .error (.argumentNull name) else .ok ()

/-- The signature's bytes; there are none without a key. -/
def signature (options : TokenOptions) (message : Text) : Bytes :=
  match options.key with
  | some key => libraries.computeHash options.algorithm key (utf8 (String.ofList message))
  | none => []

def sign (options : TokenOptions) (message : Text) : Except Failure Text :=
  match options.key with
  | some _ => (encodeBytes (signature libraries options message)).mapError .base64
  | none => .ok []

def createJwtSecurityToken (now : Int) (options : TokenOptions) : Except Failure Text := do
  let expires := options.expires.getD (now + 60 * ticksPerMinute)
  let issuedAt := options.issuedAt.getD now
  let notBefore := options.notBefore.getD now
  let payload ← jwtPayload libraries options.issuer options.audience
    (options.subject.map (List.map outboundClaimTypeTransform))
    (some notBefore) (some expires) (some issuedAt)
  let rawHeader ← base64UrlEncode libraries (jwtHeader libraries options.kid options.algorithm)
  let rawPayload ← base64UrlEncode libraries payload
  let message := rawHeader ++ '.' :: rawPayload
  let rawSignature ← sign libraries options message
  checkText "rawHeader" rawHeader
  checkText "rawPayload" rawPayload
  return message ++ '.' :: rawSignature

def asrsTokenIssuer : String := "azure-signalr"

def maxTokenLength : Nat := 4096

def maxTicks : Int := 3155378975999999999

/-- `DateTime.Add`. -/
def addTime (time lifetime : Int) : Except Failure Int :=
  if 0 ≤ time + lifetime ∧ time + lifetime ≤ maxTicks then .ok (time + lifetime)
  else .error .argumentOutOfRange

def accessTokenOptions (expire : Int) (keyBytes : Option Bytes) (kid : Option String)
    (audience : String) (claims : Option (List Claim)) (algorithm : AccessTokenAlgorithm) :
    TokenOptions where
  expires := some expire
  issuer := some asrsTokenIssuer
  audience := some audience
  subject := claims
  key := keyBytes
  kid := kid
  algorithm := algorithm

/-- The clock is read for the end of the lifetime, and then for what is left open. -/
def generateAccessToken (utcNow now : Int) (keyBytes : Option Bytes) (kid : Option String)
    (audience : String) (claims : Option (List Claim)) (lifetime : Int)
    (algorithm : AccessTokenAlgorithm) : Except Failure Text := do
  let expire ← addTime utcNow lifetime
  let jwtToken ← createJwtSecurityToken libraries now
    (accessTokenOptions expire keyBytes kid audience claims algorithm)
  if maxTokenLength < jwtToken.length then throw .tokenTooLong
  return jwtToken

/-! ## The issuer of a token -/

def tryParseIssuer (token : Option Text) : Except Failure (Option String) :=
  match token with
  | none | some [] => .ok none
  | some token =>
      match token.splitOn '.' with
      | [_, payload, _] => do
          let byteArray ← (base64UrlDecode payload).mapError .base64
          libraries.tryGetIss (libraries.getString byteArray)
      | _ => .ok none

def errorMessageLocalAuth : String :=
  "please check the connection string and see if the AccessKey is correct."

def errorMessageMicrosoftEntra : String :=
  "please check if you set the AzureAuthorityHosts properly in your TokenCredentialOptions, " ++
    "see \"https://learn.microsoft.com/en-us/dotnet/api/azure.identity.azureauthorityhosts\"."

def unauthorizedMessage (message : String) (requestUri : Option String) : String :=
  match present requestUri with
  | none => "401 Unauthorized, " ++ message
  | some requestUri => "401 Unauthorized, " ++ message ++ " Request Uri: " ++ requestUri

/-- The message of `AzureSignalRUnauthorizedException`. -/
def getExceptionMessage (jwtToken : Option Text) (requestUri : Option String) :
    Except Failure String := do
  let issuer ← tryParseIssuer libraries jwtToken
  let message := match issuer with
    | some issuer =>
        if asrsTokenIssuer = issuer then errorMessageLocalAuth else errorMessageMicrosoftEntra
    | none => errorMessageLocalAuth
  return unauthorizedMessage message requestUri

/-! ## What is in the payload -/

theorem lookup_setItem (payload : Payload ν) (key : String) (value : Entry ν) (other : String) :
    (setItem payload key value).lookup other =
      if other = key then some value else payload.lookup other := by
  induction payload with
  | nil =>
      rw [setItem, List.lookup_cons]
      split_ifs with isKey
      · rw [isKey, beq_self_eq_true]
      · rw [beq_eq_false_iff_ne.mpr isKey]
  | cons entry rest inductionHypothesis =>
      rw [setItem]
      split_ifs with isEntry isKey isKey
      · rw [List.lookup_cons, isKey, beq_self_eq_true]
      · rw [List.lookup_cons, List.lookup_cons, isEntry, beq_eq_false_iff_ne.mpr isKey]
      · rw [List.lookup_cons, inductionHypothesis, if_pos isKey,
          beq_eq_false_iff_ne.mpr fun same => isEntry (same.symm.trans isKey)]
      · rw [List.lookup_cons, inductionHypothesis, if_neg isKey, List.lookup_cons]

/-- The values of a type, in order. -/
def valuesOf (values : List (String × ν)) (key : String) : List ν :=
  (values.filter fun value => value.1 = key).map Prod.snd

/-- The entry of a type with these values. -/
def collected : List ν → Option (Entry ν)
  | [] => none
  | [value] => some (.value value)
  | first :: second :: rest => some (.list (first :: second :: rest))

theorem collected_concat (values : List ν) (value : ν) :
    collected (values ++ [value]) = some (added value (collected values)) := by
  cases values with
  | nil => rfl
  | cons first values =>
      cases values with
      | nil => rfl
      | cons second values => rfl

theorem lookup_foldl_addClaim (values : List (String × ν)) (key : String) :
    (values.foldl addClaim []).lookup key = collected (valuesOf values key) := by
  induction values using List.reverseRecOn with
  | nil => rfl
  | append_singleton values value inductionHypothesis =>
      rw [List.foldl_append]
      show (addClaim (values.foldl addClaim []) value).lookup key = _
      rw [addClaim, lookup_setItem, valuesOf, List.filter_append, List.map_append,
        List.filter_singleton]
      split_ifs with isKey
      · subst isKey
        rw [inductionHypothesis, decide_eq_true rfl]
        exact (collected_concat _ _).symm
      · rw [decide_eq_false fun same => isKey same.symm]
        show _ = collected (valuesOf values key ++ [])
        rw [List.append_nil]
        exact inductionHypothesis

/-- The registered claims are the token's own, the audience is behind those of the claims, and
every other type has the values of its claims in order. -/
structure Holds (payload : Payload ν) (values : List (String × ν)) (issuer audience : Option String)
    (notBefore expires issuedAt : Int) : Prop where
  nbf : payload.lookup "nbf" = some (.value (libraries.ofInt64 (getIntDate libraries notBefore)))
  exp : payload.lookup "exp" = some (.value (libraries.ofInt64 (getIntDate libraries expires)))
  iat : payload.lookup "iat" = some (.value (libraries.ofInt64 (getIntDate libraries issuedAt)))
  iss : payload.lookup "iss" =
    (present issuer).elim (collected (valuesOf values "iss")) fun issuer =>
      some (.value (libraries.ofString issuer))
  aud : payload.lookup "aud" =
    collected (valuesOf values "aud" ++ (present audience).toList.map libraries.ofString)
  other : ∀ key, key ∉ ["nbf", "exp", "iat", "iss", "aud"] →
    payload.lookup key = collected (valuesOf values key)

theorem lookup_setTime (payload : Payload ν) (key : String) (time : Int) (other : String) :
    (setTime libraries payload key time).lookup other =
      if other = key then some (.value (libraries.ofInt64 (getIntDate libraries time)))
      else payload.lookup other :=
  lookup_setItem payload key _ other

theorem lookup_setIssuer (payload : Payload ν) (issuer : Option String) (other : String) :
    (setIssuer libraries payload issuer).lookup other =
      if other = "iss" then
        (present issuer).elim (payload.lookup "iss") fun issuer =>
          some (.value (libraries.ofString issuer))
      else payload.lookup other := by
  rw [setIssuer]
  cases present issuer with
  | none =>
      show payload.lookup other = if other = "iss" then payload.lookup "iss" else _
      split_ifs with isKey
      · rw [isKey]
      · rfl
  | some issuer => exact lookup_setItem payload "iss" _ other

theorem lookup_addAudience (payload : Payload ν) (audience : Option String) (values : List ν)
    (before : payload.lookup "aud" = collected values) (other : String) :
    (addAudience libraries payload audience).lookup other =
      if other = "aud" then
        collected (values ++ (present audience).toList.map libraries.ofString)
      else payload.lookup other := by
  rw [addAudience]
  cases present audience with
  | none =>
      show payload.lookup other = if other = "aud" then collected (values ++ []) else _
      split_ifs with isKey
      · rw [isKey, before, List.append_nil]
      · rfl
  | some audience =>
      show (addClaim payload ("aud", libraries.ofString audience)).lookup other =
        if other = "aud" then collected (values ++ [libraries.ofString audience]) else _
      rw [addClaim, lookup_setItem, before, collected_concat]

/-- The payload in front of the audience. -/
theorem lookup_registered (payload : Payload ν) (issuer : Option String)
    (notBefore expires issuedAt : Int) (other : String) :
    (setIssuer libraries (setTime libraries (setTime libraries (setTime libraries payload "nbf"
        notBefore) "exp" expires) "iat" issuedAt) issuer).lookup other =
      if other = "iss" then
        (present issuer).elim (payload.lookup "iss") fun issuer =>
          some (.value (libraries.ofString issuer))
      else if other = "iat" then
        some (.value (libraries.ofInt64 (getIntDate libraries issuedAt)))
      else if other = "exp" then
        some (.value (libraries.ofInt64 (getIntDate libraries expires)))
      else if other = "nbf" then
        some (.value (libraries.ofInt64 (getIntDate libraries notBefore)))
      else payload.lookup other := by
  have noTime : ("iss" = "iat") = False ∧ ("iss" = "exp") = False ∧ ("iss" = "nbf") = False := by
    decide
  rw [lookup_setIssuer, lookup_setTime, lookup_setTime, lookup_setTime, lookup_setTime,
    lookup_setTime, lookup_setTime]
  simp only [noTime, if_false]

variable {libraries}

theorem jwtPayload_ok {issuer audience : Option String} {claims : Option (List Claim)}
    {notBefore expires issuedAt : Int} {payload : Payload ν}
    (made : jwtPayload libraries issuer audience claims (some notBefore) (some expires)
      (some issuedAt) = .ok payload) :
    notBefore < expires ∧ ∃ values, claimValues libraries claims = .ok values ∧
      Holds libraries payload values issuer audience notBefore expires issuedAt := by
  rw [jwtPayload] at made
  cases converted : claimValues libraries claims with
  | error failure =>
      rw [converted] at made
      cases made
  | ok values =>
      rw [converted] at made
      change setTimes libraries (values.foldl addClaim []) (some notBefore) (some expires) >>= _ = _
        at made
      rw [setTimes] at made
      split_ifs at made with tooEarly
      · cases made
      · cases made
        refine ⟨Int.not_le.mp tooEarly, values, rfl, ?_⟩
        have claimed := lookup_foldl_addClaim values
        have front := lookup_registered libraries (values.foldl addClaim []) issuer
          notBefore expires issuedAt
        have audienceFront := (front "aud").trans (claimed "aud")
        have all := lookup_addAudience libraries _ audience _ audienceFront
        constructor
        · exact (all "nbf").trans (front "nbf")
        · exact (all "exp").trans (front "exp")
        · exact (all "iat").trans (front "iat")
        · rw [← claimed "iss"]
          exact (all "iss").trans (front "iss")
        · exact all "aud"
        · intro key unregistered
          simp only [List.mem_cons, List.not_mem_nil, or_false, not_or] at unregistered
          obtain ⟨notNbf, notExp, notIat, notIss, notAud⟩ := unregistered
          rw [← claimed key]
          refine (all key).trans ?_
          rw [if_neg notAud, front, if_neg notIss, if_neg notIat, if_neg notExp, if_neg notNbf]

/-! ## What is in the token -/

def encoded (bytes : Bytes) : Text := (Library.Base64.digits bytes).map symbol

theorem base64UrlEncode_eq (payload : Payload ν) :
    base64UrlEncode libraries payload =
      .ok (encoded (utf8 (libraries.serializeObject payload))) := by
  rw [base64UrlEncode, Base64UrlEncoder.encodeBytes_eq]
  rfl

theorem dot_not_mem_encoded (bytes : Bytes) : '.' ∉ encoded bytes :=
  Base64UrlEncoder.dot_not_mem bytes

theorem sign_eq (options : TokenOptions) (message : Text) :
    sign libraries options message = .ok (encoded (signature libraries options message)) := by
  rw [sign]
  cases hasKey : options.key with
  | none =>
      rw [signature, hasKey]
      rfl
  | some key =>
      show (encodeBytes (signature libraries options message)).mapError Failure.base64 = _
      rw [Base64UrlEncoder.encodeBytes_eq]
      rfl

/-- The parts of a token, in front of their encoding. -/
structure Parts where
  header : Bytes
  payload : Bytes
  signature : Bytes

def Parts.message (parts : Parts) : Text := encoded parts.header ++ '.' :: encoded parts.payload

def Parts.token (parts : Parts) : Text := parts.message ++ '.' :: encoded parts.signature

theorem Parts.splitOn (parts : Parts) :
    parts.token.splitOn '.' =
      [encoded parts.header, encoded parts.payload, encoded parts.signature] := by
  rw [Parts.token, Parts.message, List.append_assoc, List.cons_append,
    List.splitOn_append_cons_self_of_not_mem (dot_not_mem_encoded parts.header),
    List.splitOn_append_cons_self_of_not_mem (dot_not_mem_encoded parts.payload),
    List.splitOn_eq_singleton (dot_not_mem_encoded parts.signature)]

/-- The parts that a payload makes. -/
def partsOf (libraries : Libraries ν) (options : TokenOptions) (payload : Payload ν) : Parts :=
  let header :=
    utf8 (libraries.serializeObject (jwtHeader libraries options.kid options.algorithm))
  let payload := utf8 (libraries.serializeObject payload)
  { header, payload
    signature := signature libraries options (encoded header ++ '.' :: encoded payload) }

theorem of_checkText {α : Type} {name : String} {text : Text} {next : Except Failure α} {result : α}
    (made : (checkText name text >>= fun _ => next) = .ok result) : next = .ok result := by
  rw [checkText] at made
  split_ifs at made with isEmpty
  · cases made
  · exact made

theorem createJwtSecurityToken_ok {now : Int} {options : TokenOptions} {token : Text}
    (made : createJwtSecurityToken libraries now options = .ok token) :
    ∃ payload, jwtPayload libraries options.issuer options.audience
        (options.subject.map (List.map outboundClaimTypeTransform))
        (some (options.notBefore.getD now))
        (some (options.expires.getD (now + 60 * ticksPerMinute)))
        (some (options.issuedAt.getD now)) = .ok payload ∧
      token = (partsOf libraries options payload).token := by
  rw [createJwtSecurityToken] at made
  cases isPayload : jwtPayload libraries options.issuer options.audience
      (options.subject.map (List.map outboundClaimTypeTransform))
      (some (options.notBefore.getD now)) (some (options.expires.getD (now + 60 * ticksPerMinute)))
      (some (options.issuedAt.getD now)) with
  | error failure =>
      rw [isPayload] at made
      cases made
  | ok payload =>
      refine ⟨payload, rfl, ?_⟩
      rw [isPayload, base64UrlEncode_eq] at made
      change base64UrlEncode libraries payload >>= _ = _ at made
      rw [base64UrlEncode_eq] at made
      change sign libraries options (partsOf libraries options payload).message >>= _ = _ at made
      rw [sign_eq] at made
      exact (Except.ok.inj (of_checkText (of_checkText made))).symm

theorem Parts.tryParseIssuer (parts : Parts) :
    tryParseIssuer libraries (some parts.token) =
      libraries.tryGetIss (libraries.getString parts.payload) := by
  have nonempty : parts.token ≠ [] :=
    List.append_ne_nil_of_right_ne_nil _ (List.cons_ne_nil _ _)
  have isSome : JwtToken.tryParseIssuer libraries (some parts.token) =
      (base64UrlDecode (encoded parts.payload)).mapError Failure.base64 >>= fun byteArray =>
        libraries.tryGetIss (libraries.getString byteArray) := by
    cases isToken : parts.token with
    | nil => exact (nonempty isToken).elim
    | cons first rest =>
        rw [JwtToken.tryParseIssuer, ← isToken, parts.splitOn]
        intro empty
        cases empty
  rw [isSome, encoded, Base64UrlEncoder.base64UrlDecode_digits]
  rfl

theorem generateAccessToken_ok {utcNow now lifetime : Int} {keyBytes : Option Bytes}
    {kid : Option String} {audience : String} {claims : Option (List Claim)}
    {algorithm : AccessTokenAlgorithm} {token : Text}
    (generated : generateAccessToken libraries utcNow now keyBytes kid audience claims lifetime
      algorithm = .ok token) :
    createJwtSecurityToken libraries now
        (accessTokenOptions (utcNow + lifetime) keyBytes kid audience claims algorithm) =
      .ok token ∧ token.length ≤ maxTokenLength := by
  rw [generateAccessToken, addTime] at generated
  split_ifs at generated with inRange
  · change createJwtSecurityToken libraries now
      (accessTokenOptions (utcNow + lifetime) keyBytes kid audience claims algorithm) >>= _ = _
      at generated
    cases created : createJwtSecurityToken libraries now
        (accessTokenOptions (utcNow + lifetime) keyBytes kid audience claims algorithm) with
    | error failure =>
        rw [created] at generated
        cases generated
    | ok jwtToken =>
        rw [created] at generated
        change (if maxTokenLength < jwtToken.length then _ else _) = _ at generated
        split_ifs at generated with tooLong
        · cases generated
        · cases generated
          exact ⟨rfl, Nat.not_lt.mp tooLong⟩
  · cases generated

/-! ## The contract -/

/-- `UTF8.GetString` takes back what `UTF8.GetBytes` gives, and a JSON text has the properties
that are strings. -/
structure Libraries.Lawful (libraries : Libraries ν) : Prop where
  getString_utf8 : ∀ text, libraries.getString (utf8 text) = text
  tryGetIss_serialize : ∀ (payload : Payload ν) (issuer : String),
    payload.lookup "iss" = some (.value (libraries.ofString issuer)) →
      libraries.tryGetIss (libraries.serializeObject payload) = .ok (some issuer)

/-- An access token has three parts that decode to the JSON texts of the header and of the
payload and to the signature of both. The payload's registered claims are those of the token,
whatever the client's claims say. The issuer that is read off it is the service's, so a request
that is refused with it is reported as one with an access key. -/
theorem access_token_contract (lawful : libraries.Lawful) {utcNow now lifetime : Int}
    {keyBytes : Option Bytes} {kid : Option String} {audience : String}
    {claims : Option (List Claim)} {algorithm : AccessTokenAlgorithm} {token : Text}
    (generated : generateAccessToken libraries utcNow now keyBytes kid audience claims lifetime
      algorithm = .ok token) :
    ∃ (rawHeader rawPayload rawSignature : Text) (payload : Payload ν) (values : List (String × ν)),
      token.splitOn '.' = [rawHeader, rawPayload, rawSignature] ∧
      token.length ≤ maxTokenLength ∧
      base64UrlDecode rawHeader =
        .ok (utf8 (libraries.serializeObject (jwtHeader libraries kid algorithm))) ∧
      base64UrlDecode rawPayload = .ok (utf8 (libraries.serializeObject payload)) ∧
      (∀ key, keyBytes = some key → base64UrlDecode rawSignature =
        .ok (libraries.computeHash algorithm key
          (utf8 (String.ofList (rawHeader ++ '.' :: rawPayload))))) ∧
      claimValues libraries
        (claims.map (List.map outboundClaimTypeTransform)) = .ok values ∧
      now < utcNow + lifetime ∧
      Holds libraries payload values (some asrsTokenIssuer) (some audience) now
        (utcNow + lifetime) now ∧
      tryParseIssuer libraries (some token) = .ok (some asrsTokenIssuer) ∧
      ∀ requestUri, getExceptionMessage libraries (some token) requestUri =
        .ok (unauthorizedMessage errorMessageLocalAuth requestUri) := by
  obtain ⟨created, short⟩ := generateAccessToken_ok generated
  obtain ⟨payload, made, rfl⟩ := createJwtSecurityToken_ok created
  obtain ⟨inTime, values, converted, holds⟩ := jwtPayload_ok made
  have decoded := Base64UrlEncoder.base64UrlDecode_digits
  have issued : JwtToken.tryParseIssuer libraries
      (some (partsOf libraries (accessTokenOptions (utcNow + lifetime) keyBytes kid audience claims
        algorithm) payload).token) = .ok (some asrsTokenIssuer) := by
    rw [Parts.tryParseIssuer]
    show libraries.tryGetIss (libraries.getString (utf8 (libraries.serializeObject payload))) = _
    rw [lawful.getString_utf8]
    exact lawful.tryGetIss_serialize payload asrsTokenIssuer holds.iss
  refine ⟨_, _, _, payload, values, Parts.splitOn _, short, decoded _, decoded _, ?_, converted,
    inTime, holds, issued, ?_⟩
  · intro key isKey
    rw [encoded, decoded]
    subst isKey
    rfl
  · intro requestUri
    rw [getExceptionMessage, issued]
    rfl

end Token

/-! ## A token -/

def someoneHeader : Payload (String ⊕ Int) :=
  [("alg", .value (.inl "HS256")), ("typ", .value (.inl "JWT"))]

def someonePayload : Payload (String ⊕ Int) :=
  [("iss", .value (.inl "azure-signalr")), ("nbf", .value (.inr 1)), ("exp", .value (.inr 3601)),
    ("iat", .value (.inr 1)), ("aud", .value (.inl "hub"))]

def someoneText : String :=
  "\x7b\"iss\":\"azure-signalr\",\"nbf\":1,\"exp\":3601,\"iat\":1,\"aud\":\"hub\"\x7d"

def issuerText : Option (Entry (String ⊕ Int)) → String
  | some (.value (.inl issuer)) => issuer
  | _ => ""

def someoneRawHeader : Text := "eyJhbGciOiJIUzI1NiIsInR5cCI6IkpXVCJ9".toList

def someoneRawPayload : Text :=
  ("eyJpc3MiOiJhenVyZS1zaWduYWxyIiwibmJmIjoxLCJleHAiOjM2MDEsImlhdCI6MSwiYXVkIjoiaHViIn0").toList

def someoneMessage : Text := someoneRawHeader ++ '.' :: someoneRawPayload

/-- The hash of the message with the key 1, 2, 3. -/
def someoneHash : Bytes :=
  [169, 62, 174, 111, 42, 200, 212, 100, 254, 169, 145, 83, 193, 199, 164, 204, 178, 77, 200, 250,
    7, 39, 19, 134, 43, 78, 167, 9, 171, 124, 117, 230]

def someoneRawSignature : Text := "qT6ubyrI1GT-qZFTwcekzLJNyPoHJxOGK06nCat8deY".toList

def someoneToken : Text := someoneMessage ++ '.' :: someoneRawSignature

/-- The JSON texts and the hash of one token; other payloads have their issuer behind a mark for a
text, and other messages have none. -/
def someoneLibraries : Libraries (String ⊕ Int) where
  ofString := .inl
  ofInt64 := .inr
  tryParseBoolean _ := none
  tryParseDouble _ := none
  tryParseInt32 text := text.toInt?.map .inr
  tryParseInt64 text := text.toInt?.map .inr
  tryParseDateTime _ := none
  parseObject text := .error (.json text)
  parseArray text := .error (.json text)
  totalSeconds ticks := ticks / 10000000
  serializeObject payload :=
    if payload = someoneHeader then "\x7b\"alg\":\"HS256\",\"typ\":\"JWT\"\x7d"
    else if payload = someonePayload then someoneText
    else String.ofList ('?' :: (issuerText (payload.lookup "iss")).toList)
  computeHash algorithm key message :=
    if algorithm = .HS256 ∧ key = [1, 2, 3] ∧ message = utf8 (String.ofList someoneMessage) then
      someoneHash
    else []
  getString bytes :=
    if valid : (ByteArray.mk bytes.toArray).IsValidUTF8 then String.ofByteArray _ valid else ""
  tryGetIss text :=
    if text = someoneText then .ok (some "azure-signalr")
    else .ok (some (String.ofList text.toList.tail))

theorem someoneLibraries_lawful : someoneLibraries.Lawful where
  getString_utf8 text := by
    show (if valid : (ByteArray.mk text.toByteArray.data.toList.toArray).IsValidUTF8 then
      String.ofByteArray _ valid else "") = text
    rw [dif_pos text.isValidUTF8]
  tryGetIss_serialize payload issuer found := by
    show someoneLibraries.tryGetIss (if payload = someoneHeader then _ else _) = _
    split_ifs with isHeader isPayload
    · have noIssuer : someoneHeader.lookup "iss" = none := by decide
      rw [isHeader, noIssuer] at found
      cases found
    · rw [isPayload] at found
      cases found
      rfl
    · rw [found]
      show (if String.ofList ('?' :: issuer.toList) = someoneText then _ else Except.ok
        (some (String.ofList (String.ofList ('?' :: issuer.toList)).toList.tail))) = _
      rw [if_neg, String.toList_ofList, List.tail_cons, String.ofList_toList]
      intro same
      have firsts := congrArg (fun text => text.toList.head?) same
      rw [String.toList_ofList] at firsts
      cases firsts

/-- A client that calls itself the issuer. -/
theorem access_token_contract_someone :
    generateAccessToken someoneLibraries 621355968010000000 621355968010000000 (some [1, 2, 3]) none
        "hub" (some [⟨"iss", "someone", claimValueTypesString⟩]) 36000000000 .HS256 =
      .ok someoneToken ∧
    (∃ payload, Holds someoneLibraries payload [("iss", .inl "someone")] (some asrsTokenIssuer)
      (some "hub") 621355968010000000 621356004010000000 621355968010000000) ∧
    base64UrlDecode someoneRawSignature = .ok someoneHash ∧
    tryParseIssuer someoneLibraries (some someoneToken) = .ok (some asrsTokenIssuer) := by
  have generated : generateAccessToken someoneLibraries 621355968010000000 621355968010000000
      (some [1, 2, 3]) none "hub" (some [⟨"iss", "someone", claimValueTypesString⟩]) 36000000000
      .HS256 = .ok someoneToken := by
    decide +kernel
  obtain ⟨rawHeader, rawPayload, rawSignature, payload, values, parts, -, -, -, signed, converted,
      -, holds, issued, -⟩ := access_token_contract someoneLibraries_lawful generated
  have isValues : [("iss", Sum.inl "someone")] = values := Except.ok.inj converted
  have isSplit : someoneToken.splitOn '.' =
      [someoneRawHeader, someoneRawPayload, someoneRawSignature] := by
    decide +kernel
  have sameParts := isSplit.symm.trans parts
  rw [List.cons.injEq, List.cons.injEq, List.cons.injEq] at sameParts
  obtain ⟨rfl, rfl, rfl, -⟩ := sameParts
  have isHash : someoneLibraries.computeHash .HS256 [1, 2, 3]
      (utf8 (String.ofList (someoneRawHeader ++ '.' :: someoneRawPayload))) = someoneHash := by
    decide +kernel
  refine ⟨generated, ⟨payload, isValues ▸ holds⟩, ?_, issued⟩
  rw [← isHash]
  exact signed _ rfl

end AzureSignalR.Auth.JwtToken
