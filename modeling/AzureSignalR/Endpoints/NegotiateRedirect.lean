import AzureSignalR.Library.QueryString
import Mathlib.Data.List.DropRight

/-!
Contract: the path and the request id that a negotiation sends along with the client.

Owns: `GetOriginalPath` and `GetQueryString` of `NegotiateHandler`, `GetClientEndpoint` of
`DefaultServiceEndpointGenerator`, `ProcessQuery` of `ClientConnectionContext`, and when the last
reads what the first have written.

Does not own: the library that encodes and parses query strings, which is a parameter.
-/

set_option autoImplicit false

namespace AzureSignalR.Endpoints.NegotiateRedirect

open Library

/-! ## Constants -/

def negotiate : Text := "/negotiate".toList

def originalPathParameter : Text := "asrs.op".toList

def connectionRequestIdParameter : Text := "asrs_request_id".toList

/-! ## The negotiation -/

/-- `EndsWith` is taken as the ordinal comparison. -/
def getOriginalPath (path : Text) : Text :=
  let path := path.rdropWhile (· = '/')
  if negotiate <:+ path then path.take (path.length - negotiate.length) else []

section Redirect

variable (codec : QueryCodec)

/-- `originalQueryString` is what stands behind the question mark, if there is one. -/
def getQueryString (originalQueryString clientRequestId : Option Text) : Text :=
  let clientRequestId := clientRequestId.map codec.urlEncode
  let queryString := connectionRequestIdParameter ++ '=' :: clientRequestId.getD []
  match originalQueryString with
  | some originalQueryString => originalQueryString ++ '&' :: queryString
  | none => queryString

/-- The generator for one endpoint. Its client endpoint has no query of its own. -/
structure ServiceEndpointGenerator where
  clientEndpoint : Text
  toLower : Text → Text
  noQuery : '?' ∉ clientEndpoint

namespace ServiceEndpointGenerator

variable (generator : ServiceEndpointGenerator)

def getPrefixedHubName (applicationName hubName : Text) : Text :=
  if applicationName = [] then generator.toLower hubName
  else generator.toLower applicationName ++ '_' :: generator.toLower hubName

def internalGetUri (path hubName applicationName target : Text) : Text :=
  target ++ path ++ "/?hub=".toList ++ generator.getPrefixedHubName applicationName hubName

def getClientEndpoint (hubName applicationName originalPath queryString : Text) : Text :=
  let queryBuilder :=
    if originalPath = [] then []
    else '&' :: originalPathParameter ++ '=' :: codec.urlEncode originalPath
  let queryBuilder :=
    if queryString = [] then queryBuilder else queryBuilder ++ '&' :: queryString
  generator.internalGetUri "client".toList hubName applicationName generator.clientEndpoint ++
    queryBuilder

end ServiceEndpointGenerator

/-- `Url` of the response to a negotiation. -/
def redirectUrl (generator : ServiceEndpointGenerator) (hubName applicationName path : Text)
    (queryString clientRequestId : Option Text) : Text :=
  generator.getClientEndpoint codec hubName applicationName (getOriginalPath path)
    (getQueryString codec queryString clientRequestId)

/-- The query string of a URL, with its question mark. -/
def queryOf (url : Text) : Text := url.dropWhile (· ≠ '?')

/-! ## The open connection -/

/-- `QueryHelpers.ParseNullableQuery`; no parameter at all is null. -/
def parseNullableQuery (queryString : Text) : Option (List (Text × Text)) :=
  let queryString := if queryString.head? = some '?' then queryString.drop 1 else queryString
  let parameters := codec.parameters queryString
  if parameters = [] then none else some parameters

/-- `TryGetValue` on the parsed query. -/
def tryGetValue (query : List (Text × Text)) (name : Text) : Option (List Text) :=
  let values := codec.valuesOf name query
  if values = [] then none else some values

/-- `ProcessQuery`: `RequestId`, which is `requestId` before, and the original path. -/
def processQuery (requestId : Option Text) (queryString : Text) : Option Text × Option Text :=
  match parseNullableQuery codec queryString with
  | none => (requestId, some [])
  | some query =>
      (match tryGetValue codec query connectionRequestIdParameter with
        | some connectionRequestId => some (codec.joined connectionRequestId)
        | none => requestId,
      match tryGetValue codec query originalPathParameter with
        | some path => path.head?
        | none => some [])

end Redirect

/-! ## The original path -/

/-- Everything before the last `/negotiate`, whatever slashes stand behind it. -/
theorem getOriginalPath_negotiate (path : Text) (slashes : Nat) :
    getOriginalPath (path ++ negotiate ++ List.replicate slashes '/') = path := by
  have trimmed : (path ++ negotiate ++ List.replicate slashes '/').rdropWhile (· = '/') =
      path ++ negotiate := by
    induction slashes with
    | zero =>
        rw [List.replicate_zero, List.append_nil, List.rdropWhile_eq_self_iff]
        intro nonempty
        rw [List.getLast_append_of_ne_nil nonempty (by decide)]
        decide
    | succ slashes inductionHypothesis =>
        rw [List.replicate_succ', ← List.append_assoc, List.rdropWhile_concat_pos _ _ _ (by simp)]
        exact inductionHypothesis
  unfold getOriginalPath
  rw [trimmed]
  show (if negotiate <:+ path ++ negotiate then _ else _) = _
  rw [if_pos (List.suffix_append path negotiate), List.length_append, Nat.add_sub_cancel,
    List.take_left]

/-! ## What the redirect carries -/

section Carried

variable (codec : QueryCodec) (generator : ServiceEndpointGenerator)

/-- The parameters that the client itself sent to negotiate. -/
def clientParameters (queryString : Option Text) : List (Text × Text) :=
  match queryString with
  | some queryString => codec.parameters queryString
  | none => []

def originalPathParameters (originalPath : Text) : List (Text × Text) :=
  if originalPath = [] then [] else [(originalPathParameter, originalPath)]

/-- What the reader finds behind the name of the request id; a null id has no text there. -/
def sentRequestId (requestId : Option Text) : Text :=
  match requestId with
  | some requestId => requestId
  | none => codec.decodeValue []

theorem parameters_getQueryString (queryString requestId : Option Text) :
    codec.parameters (getQueryString codec queryString requestId) =
      clientParameters codec queryString ++
        [(connectionRequestIdParameter, sentRequestId codec requestId)] := by
  have single : codec.parameters (connectionRequestIdParameter ++
      '=' :: (requestId.map codec.urlEncode).getD []) =
        [(connectionRequestIdParameter, sentRequestId codec requestId)] := by
    cases requestId with
    | none =>
        exact (codec.parameters_single (by decide) (by decide) List.not_mem_nil).trans
          (by rw [codec.decodeName_plain _ (by decide)]; rfl)
    | some requestId =>
        exact (codec.parameters_single (by decide) (by decide)
          (codec.separator_notMem_urlEncode requestId)).trans
          (by rw [codec.decodeName_plain _ (by decide), codec.decodeValue_urlEncode]; rfl)
  cases queryString with
  | none => exact single
  | some queryString =>
      show codec.parameters (queryString ++ '&' :: _) = _
      rw [codec.parameters_append]
      exact congrArg _ single

theorem getQueryString_ne_nil (queryString requestId : Option Text) :
    getQueryString codec queryString requestId ≠ [] := by
  have parameterName : connectionRequestIdParameter ≠ [] := by decide
  cases queryString with
  | none => exact List.append_ne_nil_of_left_ne_nil parameterName _
  | some queryString => exact List.append_ne_nil_of_right_ne_nil _ (List.cons_ne_nil _ _)

theorem queryOf_append {front : Text} (noQuery : '?' ∉ front) (behind : Text) :
    queryOf (front ++ '?' :: behind) = '?' :: behind := by
  unfold queryOf
  induction front with
  | nil => rfl
  | cons char front inductionHypothesis =>
      have other : char ≠ '?' := fun same => noQuery (same ▸ List.mem_cons_self)
      rw [List.cons_append, List.dropWhile_cons_of_pos (by simpa using other)]
      exact inductionHypothesis fun member => noQuery (List.mem_cons_of_mem _ member)

theorem redirectUrl_eq (hubName applicationName path : Text)
    (queryString requestId : Option Text) :
    redirectUrl codec generator hubName applicationName path queryString requestId =
      (generator.clientEndpoint ++ "client/".toList) ++
        '?' :: (("hub".toList ++ '=' :: generator.getPrefixedHubName applicationName hubName) ++
          ((if getOriginalPath path = [] then []
            else '&' :: (originalPathParameter ++ '=' :: codec.urlEncode (getOriginalPath path))) ++
          '&' :: getQueryString codec queryString requestId)) := by
  have target : "client".toList ++ "/?hub=".toList =
      "client/".toList ++ '?' :: ("hub".toList ++ ['=']) := by decide
  have nonempty := getQueryString_ne_nil codec queryString requestId
  unfold redirectUrl ServiceEndpointGenerator.getClientEndpoint
    ServiceEndpointGenerator.internalGetUri
  simp only [if_neg nonempty]
  rw [List.append_assoc generator.clientEndpoint, target]
  simp

/-- The parameters of the redirect: the hub, the original path, then those of the client, then
the request id. -/
theorem parameters_redirect {hubName applicationName : Text}
    (plain : '&' ∉ generator.getPrefixedHubName applicationName hubName) (path : Text)
    (queryString requestId : Option Text) :
    parseNullableQuery codec (queryOf
        (redirectUrl codec generator hubName applicationName path queryString requestId)) =
      some (("hub".toList,
          codec.decodeValue (generator.getPrefixedHubName applicationName hubName)) ::
        (originalPathParameters (getOriginalPath path) ++
          (clientParameters codec queryString ++
            [(connectionRequestIdParameter, sentRequestId codec requestId)]))) := by
  have inFront : '?' ∉ generator.clientEndpoint ++ "client/".toList := by
    simp [generator.noQuery]
  have hub : codec.parameters ("hub".toList ++ '=' ::
      generator.getPrefixedHubName applicationName hubName) =
        [("hub".toList,
          codec.decodeValue (generator.getPrefixedHubName applicationName hubName))] := by
    rw [codec.parameters_single (by decide) (by decide) plain, codec.decodeName_plain _ (by decide)]
  have behind := parameters_getQueryString codec queryString requestId
  rw [redirectUrl_eq, queryOf_append inFront]
  unfold parseNullableQuery
  simp only [List.head?_cons, if_true, List.drop_one, List.tail_cons]
  suffices isWhole : codec.parameters _ = _ by
    rw [isWhole, if_neg (List.cons_ne_nil _ _)]
  rw [originalPathParameters]
  split_ifs with noPath
  · rw [List.nil_append, codec.parameters_append, hub, behind]
    rfl
  · rw [List.cons_append, codec.parameters_append, codec.parameters_append, hub, behind,
      codec.parameters_single (by decide) (by decide) (codec.separator_notMem_urlEncode _),
      codec.decodeName_plain _ (by decide), codec.decodeValue_urlEncode]
    rfl

/-- The values that the client itself sent for a parameter. -/
def clientValues (queryString : Option Text) (name : Text) : List Text :=
  codec.valuesOf name (clientParameters codec queryString)

theorem requestIds_redirect (hub path requestId : Text) (queryString : Option Text) :
    codec.valuesOf connectionRequestIdParameter (("hub".toList, hub) ::
        (originalPathParameters path ++ (clientParameters codec queryString ++
          [(connectionRequestIdParameter, requestId)]))) =
      clientValues codec queryString connectionRequestIdParameter ++ [requestId] := by
  rw [← List.singleton_append, codec.valuesOf_append, codec.valuesOf_append, codec.valuesOf_append,
    codec.valuesOf_other (by decide), codec.valuesOf_same, originalPathParameters]
  split_ifs
  · rfl
  · rw [codec.valuesOf_other (by decide)]
    rfl

theorem originalPaths_redirect (hub path requestId : Text) (queryString : Option Text) :
    codec.valuesOf originalPathParameter (("hub".toList, hub) ::
        (originalPathParameters path ++ (clientParameters codec queryString ++
          [(connectionRequestIdParameter, requestId)]))) =
      (if path = [] then [] else [path]) ++
        clientValues codec queryString originalPathParameter := by
  rw [← List.singleton_append, codec.valuesOf_append, codec.valuesOf_append, codec.valuesOf_append,
    codec.valuesOf_other (show "hub".toList.length ≠ originalPathParameter.length by decide),
    codec.valuesOf_other
      (show connectionRequestIdParameter.length ≠ originalPathParameter.length by decide),
    originalPathParameters, List.append_nil, List.nil_append]
  split_ifs
  · rfl
  · rw [codec.valuesOf_same]
    rfl

/-- What `ProcessQuery` reads from the redirect. -/
theorem processQuery_redirect {hubName applicationName : Text}
    (plain : '&' ∉ generator.getPrefixedHubName applicationName hubName) (path : Text)
    (queryString requestId before : Option Text) :
    processQuery codec before (queryOf
        (redirectUrl codec generator hubName applicationName path queryString requestId)) =
      (some (codec.joined (clientValues codec queryString connectionRequestIdParameter ++
          [sentRequestId codec requestId])),
        some (if getOriginalPath path = [] then
            (clientValues codec queryString originalPathParameter).headD []
          else getOriginalPath path)) := by
  unfold processQuery tryGetValue
  rw [parameters_redirect codec generator plain]
  simp only [requestIds_redirect, originalPaths_redirect]
  rw [if_neg (List.append_ne_nil_of_right_ne_nil _ (List.cons_ne_nil _ _))]
  by_cases noPath : getOriginalPath path = []
  · simp only [if_pos noPath, List.nil_append]
    cases clientValues codec queryString originalPathParameter with
    | nil => rfl
    | cons first others => rfl
  · simp only [if_neg noPath]
    rfl

/-! ## When both come back -/

/-- `ProcessQuery` reads the request id and the original path that the negotiation produced. -/
def ComesBack (hubName applicationName path : Text) (queryString requestId before : Option Text) :
    Prop :=
  processQuery codec before (queryOf
      (redirectUrl codec generator hubName applicationName path queryString requestId)) =
    (requestId, some (getOriginalPath path))

instance (hubName applicationName path : Text) (queryString requestId before : Option Text) :
    Decidable (ComesBack codec generator hubName applicationName path queryString requestId
      before) :=
  inferInstanceAs (Decidable (_ = _))

/-- The client's own query has no request id that shows in the text of all of them. -/
def NoRequestId (queryString : Option Text) : Prop :=
  if codec.keepsEmpty then clientValues codec queryString connectionRequestIdParameter = []
  else ∀ value ∈ clientValues codec queryString connectionRequestIdParameter, value = []

/-- The client's own query has no original path, or an empty one before all others. -/
def NoOriginalPath (queryString : Option Text) : Prop :=
  (clientValues codec queryString originalPathParameter).headD [] = []

/-- Both come back exactly when the request id is not null, the client's own query has no request
id, and no original path either where the negotiation found none. -/
theorem comes_back_iff {hubName applicationName : Text}
    (plain : '&' ∉ generator.getPrefixedHubName applicationName hubName) (path : Text)
    (queryString requestId before : Option Text) :
    ComesBack codec generator hubName applicationName path queryString requestId before ↔
      requestId ≠ none ∧ NoRequestId codec queryString ∧
        (getOriginalPath path = [] → NoOriginalPath codec queryString) := by
  rw [ComesBack, processQuery_redirect codec generator plain, Prod.mk.injEq, Option.some.injEq]
  have pathBack : (if getOriginalPath path = [] then
      (clientValues codec queryString originalPathParameter).headD []
      else getOriginalPath path) = getOriginalPath path ↔
        (getOriginalPath path = [] → NoOriginalPath codec queryString) := by
    rw [NoOriginalPath]
    split_ifs with noPath
    · rw [noPath]
      exact ⟨fun same _ => same, fun same => same rfl⟩
    · exact ⟨fun _ isNone => absurd isNone noPath, fun _ => rfl⟩
  rw [pathBack, ← and_assoc]
  apply and_congr_left
  intro _
  cases requestId with
  | none => exact ⟨nofun, fun same => absurd rfl same.1⟩
  | some requestId =>
      rw [Option.some.injEq, NoRequestId]
      exact (codec.joined_concat_eq_iff _ requestId).trans
        ⟨fun none => ⟨nofun, none⟩, And.right⟩

end Carried

/-! ## A codec -/

def hexDigit (value : Nat) : Char :=
  if value < 10 then Char.ofNat (0x30 + value) else Char.ofNat (0x37 + value)

def hexValue (digit : Char) : Nat :=
  if digit.toNat < 0x3a then digit.toNat - 0x30 else digit.toNat - 0x37

/-- `WebUtility.UrlEncode` on ASCII; other characters are passed on. -/
def urlEncodeChar (char : Char) : Text :=
  if char.isAlphanum || "-_.!*()".toList.contains char then [char]
  else if char = ' ' then ['+']
  else if char.toNat < 128 then ['%', hexDigit (char.toNat / 16), hexDigit (char.toNat % 16)]
  else [char]

def unescape : Text → Text
  | '%' :: high :: low :: rest =>
      Char.ofNat (16 * hexValue high + hexValue low) :: unescape rest
  | '+' :: rest => ' ' :: unescape rest
  | char :: rest => char :: unescape rest
  | [] => []

theorem unescape_cons {char : Char} (noPercent : char ≠ '%') (noPlus : char ≠ '+') (rest : Text) :
    unescape (char :: rest) = char :: unescape rest := by
  rw [unescape]
  · exact fun _ _ _ same _ => noPercent same
  · exact noPlus

theorem hexValue_hexDigit : ∀ value < 16, hexValue (hexDigit value) = value := by
  decide

theorem hexDigit_ne_separator : ∀ value < 16, hexDigit value ≠ '&' := by
  decide

theorem unescape_urlEncodeChar (char : Char) (rest : Text) :
    unescape (urlEncodeChar char ++ rest) = char :: unescape rest := by
  rw [urlEncodeChar]
  split_ifs with passed space ascii
  · apply unescape_cons
    · rintro rfl
      exact absurd passed (by decide)
    · rintro rfl
      exact absurd passed (by decide)
  · rw [space]
    rfl
  · show Char.ofNat _ :: unescape rest = _
    rw [hexValue_hexDigit _ (by omega), hexValue_hexDigit _ (by omega), Nat.div_add_mod,
      Char.ofNat_toNat]
  · apply unescape_cons
    · rintro rfl
      exact absurd (by decide) ascii
    · rintro rfl
      exact absurd (by decide) ascii

theorem separator_notMem_urlEncodeChar (char : Char) : '&' ∉ urlEncodeChar char := by
  rw [urlEncodeChar]
  split_ifs with passed space ascii
  · intro member
    rw [← List.mem_singleton.mp member] at passed
    exact absurd passed (by decide)
  · decide
  · intro member
    simp only [List.mem_cons, List.not_mem_nil, or_false] at member
    rcases member with percent | high | low
    · cases percent
    · exact hexDigit_ne_separator _ (by omega) high.symm
    · exact hexDigit_ne_separator _ (by omega) low.symm
  · intro member
    rw [← List.mem_singleton.mp member] at ascii
    exact ascii (by decide)

theorem unescape_urlEncode (text : Text) : unescape (text.flatMap urlEncodeChar) = text := by
  induction text with
  | nil => rfl
  | cons char text inductionHypothesis =>
      rw [List.flatMap_cons, unescape_urlEncodeChar, inductionHypothesis]

theorem unescape_plain {name : Text}
    (plain : (name.all fun char => char.isAlphanum || char = '.' || char = '_') = true) :
    unescape name = name := by
  induction name with
  | nil => rfl
  | cons char name inductionHypothesis =>
      rw [List.all_cons, Bool.and_eq_true] at plain
      rw [unescape_cons _ _, inductionHypothesis plain.2]
      · rintro rfl
        exact absurd plain.1 (by decide)
      · rintro rfl
        exact absurd plain.1 (by decide)

/-- A version of the library that joins all values, on ASCII. -/
def asciiCodec : QueryCodec where
  urlEncode text := text.flatMap urlEncodeChar
  decodeName := unescape
  decodeBare := unescape
  decodeValue := unescape
  toUpperInvariant := Char.toUpper
  keepsEmpty := true
  separator_notMem_urlEncode text member := by
    obtain ⟨char, -, inChar⟩ := List.mem_flatMap.mp member
    exact separator_notMem_urlEncodeChar char inChar
  decodeValue_urlEncode := unescape_urlEncode
  decodeName_plain _ := unescape_plain

def localGenerator : ServiceEndpointGenerator where
  clientEndpoint := "https://localhost/".toList
  toLower text := text.map Char.toLower
  noQuery := by decide

/-- With `/chat/negotiate?asrs_request_id=x` and the request id `a`, the id read is `x,a`. -/
theorem requestIds_collide : ¬ ComesBack asciiCodec localGenerator "Chat".toList []
    "/chat/negotiate".toList (some "asrs_request_id=x".toList) (some "a".toList) none := by
  decide

theorem comes_back_with_parameters :
    getOriginalPath "/chat room/negotiate/".toList = "/chat room".toList ∧
      ComesBack asciiCodec localGenerator "Chat".toList [] "/chat room/negotiate/".toList
        (some "hub=x&asrs.op=/y".toList) (some "a&b".toList) none := by
  refine ⟨getOriginalPath_negotiate "/chat room".toList 1, ?_⟩
  refine (comes_back_iff asciiCodec localGenerator (by decide) _ _ _ _).2 ⟨nofun, ?_, nofun⟩
  show clientValues asciiCodec _ connectionRequestIdParameter = []
  decide

end AzureSignalR.Endpoints.NegotiateRedirect
