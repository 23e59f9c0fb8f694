import Mathlib.Data.List.Basic

/-!
Contract: the short names of claim types in a token.

Owns: `ClaimTypeMapping`, and that the name a type is shortened to stands for that type.

Does not own: which claims a token has.
-/

set_option autoImplicit false

namespace AzureSignalR.Auth.ClaimTypeMapping

def soapClaims : String := "http://schemas.xmlsoap.org/ws/2005/05/identity/claims/"

def identityClaims : String := "http://schemas.microsoft.com/ws/2008/06/identity/claims/"

def certificateExtension : String :=
  "http://schemas.microsoft.com/2012/12/certificatecontext/extension/"

def certificateField : String := "http://schemas.microsoft.com/2012/12/certificatecontext/field/"

def requestClaims : String := "http://schemas.microsoft.com/2012/01/requestcontext/claims/"

def deviceClaims : String := "http://schemas.microsoft.com/2012/01/devicecontext/claims/"

/-- The short names, in their order, each with the type it stands for. -/
def shortToLongClaimTypeMapping : List (String × String) :=
  [("actort", "http://schemas.xmlsoap.org/ws/2009/09/identity/claims/actor"),
    ("birthdate", soapClaims ++ "dateofbirth"),
    ("email", soapClaims ++ "emailaddress"),
    ("family_name", soapClaims ++ "surname"),
    ("gender", soapClaims ++ "gender"),
    ("given_name", soapClaims ++ "givenname"),
    ("nameid", soapClaims ++ "nameidentifier"),
    ("sub", soapClaims ++ "nameidentifier"),
    ("website", soapClaims ++ "webpage"),
    ("unique_name", soapClaims ++ "name"),
    ("oid", "http://schemas.microsoft.com/identity/claims/objectidentifier"),
    ("scp", "http://schemas.microsoft.com/identity/claims/scope"),
    ("tid", "http://schemas.microsoft.com/identity/claims/tenantid"),
    ("acr", "http://schemas.microsoft.com/claims/authnclassreference"),
    ("adfs1email", "http://schemas.xmlsoap.org/claims/EmailAddress"),
    ("adfs1upn", "http://schemas.xmlsoap.org/claims/UPN"),
    ("amr", "http://schemas.microsoft.com/claims/authnmethodsreferences"),
    ("authmethod", identityClaims ++ "authenticationmethod"),
    ("certapppolicy", certificateExtension ++ "applicationpolicy"),
    ("certauthoritykeyidentifier", certificateExtension ++ "authoritykeyidentifier"),
    ("certbasicconstraints", certificateExtension ++ "basicconstraints"),
    ("certeku", certificateExtension ++ "eku"),
    ("certissuer", certificateField ++ "issuer"),
    ("certissuername", certificateField ++ "issuername"),
    ("certkeyusage", certificateExtension ++ "keyusage"),
    ("certnotafter", certificateField ++ "notafter"),
    ("certnotbefore", certificateField ++ "notbefore"),
    ("certpolicy", certificateExtension ++ "certificatepolicy"),
    ("certpublickey", soapClaims ++ "rsa"),
    ("certrawdata", certificateField ++ "rawdata"),
    ("certserialnumber", identityClaims ++ "serialnumber"),
    ("certsignaturealgorithm", certificateField ++ "signaturealgorithm"),
    ("certsubject", certificateField ++ "subject"),
    ("certsubjectaltname", certificateExtension ++ "san"),
    ("certsubjectkeyidentifier", certificateExtension ++ "subjectkeyidentifier"),
    ("certsubjectname", certificateField ++ "subjectname"),
    ("certtemplateinformation", certificateExtension ++ "certificatetemplateinformation"),
    ("certtemplatename", certificateExtension ++ "certificatetemplatename"),
    ("certthumbprint", soapClaims ++ "thumbprint"),
    ("certx509version", certificateField ++ "x509version"),
    ("clientapplication", requestClaims ++ "x-ms-client-application"),
    ("clientip", requestClaims ++ "x-ms-client-ip"),
    ("clientuseragent", requestClaims ++ "x-ms-client-user-agent"),
    ("commonname", "http://schemas.xmlsoap.org/claims/CommonName"),
    ("denyonlyprimarygroupsid", identityClaims ++ "denyonlyprimarygroupsid"),
    ("denyonlyprimarysid", identityClaims ++ "denyonlyprimarysid"),
    ("denyonlysid", soapClaims ++ "denyonlysid"),
    ("devicedispname", deviceClaims ++ "displayname"),
    ("deviceid", deviceClaims ++ "identifier"),
    ("deviceismanaged", deviceClaims ++ "ismanaged"),
    ("deviceostype", deviceClaims ++ "ostype"),
    ("deviceosver", deviceClaims ++ "osversion"),
    ("deviceowner", deviceClaims ++ "userowner"),
    ("deviceregid", deviceClaims ++ "registrationid"),
    ("endpointpath", requestClaims ++ "x-ms-endpoint-absolute-path"),
    ("forwardedclientip", requestClaims ++ "x-ms-forwarded-client-ip"),
    ("group", "http://schemas.xmlsoap.org/claims/Group"),
    ("groupsid", identityClaims ++ "groupsid"),
    ("idp", "http://schemas.microsoft.com/identity/claims/identityprovider"),
    ("insidecorporatenetwork", "http://schemas.microsoft.com/ws/2012/01/insidecorporatenetwork"),
    ("isregistereduser", deviceClaims ++ "isregistereduser"),
    ("ppid", soapClaims ++ "privatepersonalidentifier"),
    ("primarygroupsid", identityClaims ++ "primarygroupsid"),
    ("primarysid", identityClaims ++ "primarysid"),
    ("proxy", requestClaims ++ "x-ms-proxy"),
    ("pwdchgurl", "http://schemas.microsoft.com/ws/2012/01/passwordchangeurl"),
    ("pwdexpdays", "http://schemas.microsoft.com/ws/2012/01/passwordexpirationdays"),
    ("pwdexptime", "http://schemas.microsoft.com/ws/2012/01/passwordexpirationtime"),
    ("relyingpartytrustid", requestClaims ++ "relyingpartytrustid"),
    ("role", identityClaims ++ "role"),
    ("roles", identityClaims ++ "role"),
    ("upn", soapClaims ++ "upn"),
    ("winaccountname", identityClaims ++ "windowsaccountname")]

/-- Of the short names of a type, the first is taken. -/
def outboundClaimTypeMap (type : String) : Option String :=
  (shortToLongClaimTypeMapping.find? fun entry => entry.2 = type).map Prod.fst

theorem lookup_shortToLongClaimTypeMapping :
    ∀ entry ∈ shortToLongClaimTypeMapping,
      shortToLongClaimTypeMapping.lookup entry.1 = some entry.2 := by
  decide +kernel

/-- A type is read back from its short name. -/
theorem lookup_outboundClaimTypeMap {type short : String}
    (shortened : outboundClaimTypeMap type = some short) :
    shortToLongClaimTypeMapping.lookup short = some type := by
  obtain ⟨entry, found, rfl⟩ := Option.map_eq_some_iff.mp shortened
  rw [lookup_shortToLongClaimTypeMapping entry (List.mem_of_find?_eq_some found)]
  have isType := List.find?_some found
  exact congrArg some (of_decide_eq_true isType)

end AzureSignalR.Auth.ClaimTypeMapping
