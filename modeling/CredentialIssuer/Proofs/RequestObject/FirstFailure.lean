import CredentialIssuer.Proofs.RequestObject.Trust

/-! Claims are refused for the first condition that they fail, in a fixed order. Whoever sent them
is told what they do hold, never a value that stands in for an absent claim. -/
namespace CredentialIssuer.RequestObject

def requiredClaims : List String := ["exp", "iat", "iss", "nbf", "response_type", "sub"]

def Claims.lacks (c : Claims) : String → Bool
  | "exp" => c.exp.isNone
  | "iat" => c.iat.isNone
  | "iss" => c.iss.isNone
  | "nbf" => c.nbf.isNone
  | "response_type" => c.responseType.isNone
  | "sub" => c.sub.isNone
  | _ => false

inductive Condition where
  | required
  | audience
  | issuer
  | responseType
  | expiry
  | notBefore
  | lifetime
  deriving DecidableEq, Repr

/-- What the client is told where its claims are refused. -/
structure Told where
  reason : RecoverableReason
  description : String
  deriving DecidableEq, Repr

def Rejection.told (r : Rejection) : Told := ⟨r.reason, r.description⟩

def bracketed (items : List String) : String :=
  "[" ++ String.intercalate ", " items ++ "]"

namespace Condition

def inOrder : List Condition :=
  [.required, .audience, .issuer, .responseType, .expiry, .notBefore, .lifetime]

/-- What is told of claims that fail a condition. A required claim that is absent fails no condition
but the first. -/
def told? (claims : Claims) (context : Context) : Condition → Option Told
  | .required =>
    match requiredClaims.filter claims.lacks with
    | [] => none
    | names => some ⟨.missingClaims, "JWT missing required claims: " ++ bracketed names⟩
  | .audience =>
    match claims.aud with
    | none => some ⟨.audienceRejected, "JWT missing required audience"⟩
    | some aud =>
      if context.client.audience ∈ aud.values then none
      else some ⟨.audienceRejected, "JWT audience rejected: " ++ bracketed aud.values⟩
  | .issuer => claims.iss.bind fun iss =>
    if iss = context.client.issuer then none
    else some ⟨.issuerMismatch,
      "JWT iss claim has value " ++ iss ++ ", must be " ++ context.client.issuer⟩
  | .responseType => claims.responseType.bind fun kind =>
    if kind = "code" then none
    else some ⟨.responseTypeMismatch,
      "JWT response_type claim has value " ++ kind ++ ", must be " ++ "code"⟩
  | .expiry => claims.exp.bind fun exp =>
    if exp < Saturating.sub context.now context.clockSkew then some ⟨.expired, "Expired JWT"⟩
    else none
  | .notBefore => claims.nbf.bind fun nbf =>
    if Saturating.add context.now context.clockSkew < nbf then
      some ⟨.notYetValid, "JWT before use time"⟩
    else none
  | .lifetime => claims.exp.bind fun exp => claims.iat.bind fun iat =>
    if context.maxTtl < RequestObject.lifetime context exp iat then
      some ⟨.ttlExceeded,
        "The client JWT expiry date has surpassed the maximum allowed ttl value"⟩
    else none

end Condition

def firstTold? (claims : Claims) (context : Context) : Option Told :=
  Condition.inOrder.findSome? (·.told? claims context)

private def verdict : Option Told → Except Told Unit
  | none => .ok ()
  | some told => .error told

private theorem verdict_or (a b : Option Told) :
    verdict (a.or b) = (do verdict a; verdict b) := by
  cases a <;> rfl

private theorem findSome?_cons_or {α β : Type} (f : α → Option β) (a : α) (l : List α) :
    (a :: l).findSome? f = (f a).or (l.findSome? f) := by
  rw [List.findSome?_cons]
  cases f a <;> rfl

/-- The verdict of a check, of which only what is told is kept. -/
private def toldBy : Except Rejection Unit → Except Told Unit
  | .ok () => .ok ()
  | .error rejection => .error rejection.told

private theorem toldBy_bind (a b : Except Rejection Unit) :
    toldBy (do a; b) = (do toldBy a; toldBy b) := by
  cases a <;> rfl

/-- The claims that are told to be missing are those that are. -/
theorem missingClaims_eq (claims : Claims) :
    missingClaims claims = requiredClaims.filter claims.lacks := by
  have hone {α : Type} (name : String) (value : Option α) (h : claims.lacks name = value.isNone) :
      absent name value = [name].filter claims.lacks := by
    cases value <;> simp [absent, h]
  rw [missingClaims, hone "exp" claims.exp rfl, hone "iat" claims.iat rfl,
    hone "iss" claims.iss rfl, hone "nbf" claims.nbf rfl,
    hone "response_type" claims.responseType rfl, hone "sub" claims.sub rfl]
  simp only [← List.filter_append]
  rfl

section Checks

variable {claims : Claims} {context : Context}

private theorem toldBy_checkRequired :
    toldBy (checkRequired claims context) = verdict (Condition.told? claims context .required) := by
  rw [checkRequired, missingClaims_eq, Condition.told?]
  cases requiredClaims.filter claims.lacks <;> rfl

private theorem toldBy_checkAudience :
    toldBy (checkAudience claims context) = verdict (Condition.told? claims context .audience) := by
  rw [checkAudience, Condition.told?]
  cases claims.aud with
  | none => rfl
  | some aud =>
    by_cases h : context.client.audience ∈ aud.values
    · simp only [Audience.names, List.contains_iff_mem, h, if_true]
      rfl
    · simp only [Audience.names, List.contains_iff_mem, h, if_false]
      rfl

private theorem toldBy_checkIssuer {iss : String} (h : claims.iss = some iss) :
    toldBy (checkIssuer claims context) = verdict (Condition.told? claims context .issuer) := by
  simp only [checkIssuer, Condition.told?, h, Option.getD_some, Option.bind_some]
  split <;> rfl

private theorem toldBy_checkResponseType {kind : String} (h : claims.responseType = some kind) :
    toldBy (checkResponseType claims context) =
      verdict (Condition.told? claims context .responseType) := by
  simp only [checkResponseType, codeResponse, Condition.told?, h, Option.getD_some,
    Option.bind_some]
  split <;> rfl

private theorem toldBy_checkTimes {exp nbf iat : Int64} (hexp : claims.exp = some exp)
    (hnbf : claims.nbf = some nbf) (hiat : claims.iat = some iat) :
    toldBy (checkTimes claims context) = (do
      verdict (Condition.told? claims context .expiry)
      verdict (Condition.told? claims context .notBefore)
      verdict (Condition.told? claims context .lifetime)) := by
  simp only [checkTimes, Condition.told?, hexp, hnbf, hiat, Option.bind_some]
  split
  · rfl
  · split
    · rfl
    · split <;> rfl

private theorem toldBy_runChecks :
    toldBy (runChecks claims context) = verdict (firstTold? claims context) := by
  have hsteps : runChecks claims context = (do
      checkRequired claims context
      checkAudience claims context
      checkIssuer claims context
      checkResponseType claims context
      checkTimes claims context) := by
    simp [runChecks, checks]
  simp only [hsteps, toldBy_bind, firstTold?, Condition.inOrder, findSome?_cons_or,
    List.findSome?_nil, Option.or_none, verdict_or, toldBy_checkRequired, toldBy_checkAudience]
  cases hmissing : Condition.told? claims context .required with
  | some told => rfl
  | none =>
    have hpassed : checkRequired claims context = .ok () := by
      have h : toldBy (checkRequired claims context) = _ := toldBy_checkRequired
      rw [hmissing] at h
      cases hr : checkRequired claims context with
      | ok => rfl
      | error rejection =>
        rw [hr] at h
        cases h
    have hpresent := checkRequired_eq_ok_iff.mp hpassed
    simp only [Option.isSome_iff_exists] at hpresent
    obtain ⟨⟨exp, hexp⟩, ⟨iat, hiat⟩, ⟨iss, hiss⟩, ⟨nbf, hnbf⟩, ⟨kind, hkind⟩, -⟩ := hpresent
    rw [toldBy_checkIssuer hiss, toldBy_checkResponseType hkind, toldBy_checkTimes hexp hnbf hiat]

private theorem append_ne {a b c : String} (h : ¬ a.toList <+: c.toList) : a ++ b ≠ c := by
  rintro rfl
  exact h ⟨b.toList, String.toList_append.symm⟩

/-- What is told of claims is true of them, and is told of claims that are there. -/
structure Accounts (claims : Claims) (context : Context) (told : Told) : Prop where
  missing : told.reason = .missingClaims → ∃ names : List String, names ≠ [] ∧
    names.Pairwise (· < ·) ∧
    (∀ name, name ∈ names ↔ name ∈ requiredClaims ∧ claims.lacks name = true) ∧
    told.description = "JWT missing required claims: [" ++ String.intercalate ", " names ++ "]"
  issuer : told.reason = .issuerMismatch → ∃ iss, claims.iss = some iss ∧
    iss ≠ context.client.issuer
  responseType : told.reason = .responseTypeMismatch → ∃ kind, claims.responseType = some kind ∧
    kind ≠ "code"
  notBare : told.description ≠ "JWT missing required claims"

private theorem accounts_required {names : List String}
    (h : requiredClaims.filter claims.lacks = names) (hne : names ≠ []) :
    Accounts claims context
      ⟨.missingClaims, "JWT missing required claims: " ++ bracketed names⟩ where
  missing _ := by
    have hsorted : requiredClaims.Pairwise (· < ·) := by decide
    refine ⟨names, hne, h ▸ hsorted.filter _, fun name => ?_, ?_⟩
    · rw [← h, List.mem_filter]
    · have hopen : "JWT missing required claims: [" = "JWT missing required claims: " ++ "[" := by
        decide
      rw [hopen, String.append_assoc, String.append_assoc, bracketed, String.append_assoc]
  issuer hreason := nomatch hreason
  responseType hreason := nomatch hreason
  notBare := append_ne (by decide +kernel)

private theorem accounts_of_told? {condition : Condition} {told : Told}
    (h : condition.told? claims context = some told) : Accounts claims context told := by
  cases condition with
  | required =>
    rw [Condition.told?] at h
    split at h
    · cases h
    · rename_i names hne
      obtain rfl := Option.some.inj h
      exact accounts_required rfl hne
  | audience =>
    rw [Condition.told?] at h
    split at h
    · obtain rfl := Option.some.inj h
      exact ⟨nofun, nofun, nofun, by decide +kernel⟩
    · split at h
      · cases h
      · obtain rfl := Option.some.inj h
        exact ⟨nofun, nofun, nofun, append_ne (by decide +kernel)⟩
  | issuer =>
    obtain ⟨iss, hiss, h⟩ := Option.bind_eq_some_iff.mp h
    split at h
    · cases h
    · rename_i hne
      obtain rfl := Option.some.inj h
      refine ⟨nofun, fun _ => ⟨iss, hiss, hne⟩, nofun, ?_⟩
      simp only [String.append_assoc]
      exact append_ne (by decide +kernel)
  | responseType =>
    obtain ⟨kind, hkind, h⟩ := Option.bind_eq_some_iff.mp h
    split at h
    · cases h
    · rename_i hne
      obtain rfl := Option.some.inj h
      refine ⟨nofun, nofun, fun _ => ⟨kind, hkind, hne⟩, ?_⟩
      simp only [String.append_assoc]
      exact append_ne (by decide +kernel)
  | expiry =>
    obtain ⟨exp, -, h⟩ := Option.bind_eq_some_iff.mp h
    obtain rfl := Option.some.inj (Option.ite_none_right_eq_some.mp h).2
    exact ⟨nofun, nofun, nofun, by decide +kernel⟩
  | notBefore =>
    obtain ⟨nbf, -, h⟩ := Option.bind_eq_some_iff.mp h
    obtain rfl := Option.some.inj (Option.ite_none_right_eq_some.mp h).2
    exact ⟨nofun, nofun, nofun, by decide +kernel⟩
  | lifetime =>
    obtain ⟨exp, -, h⟩ := Option.bind_eq_some_iff.mp h
    obtain ⟨iat, -, h⟩ := Option.bind_eq_some_iff.mp h
    obtain rfl := Option.some.inj (Option.ite_none_right_eq_some.mp h).2
    exact ⟨nofun, nofun, nofun, by decide +kernel⟩

private theorem trustedRedirect_of_not_absolute {client : ClientTrust}
    (h : ∀ uri url, claims.redirectUri = some uri → Url.parse uri ≠ .ok url) :
    trustedRedirect claims client = .error .redirectUnreadable := by
  rw [trustedRedirect]
  cases huri : claims.redirectUri with
  | none => rfl
  | some uri =>
    cases hurl : Url.parse uri with
    | error fault => simp only [hurl]
    | ok url => exact absurd hurl (h uri url huri)

private theorem trustedRedirect_of_unregistered {client : ClientTrust} {uri : String} {url : Url}
    (huri : claims.redirectUri = some uri) (hurl : Url.parse uri = .ok url)
    (h : uri ∉ client.redirectUris) :
    trustedRedirect claims client = .error .redirectUnregistered := by
  simp [trustedRedirect, huri, hurl, ClientTrust.isRegistered, h]

private theorem runChecks_eq_ok_iff_told : runChecks claims context = .ok () ↔
    firstTold? claims context = none := by
  have h : toldBy (runChecks claims context) = _ := toldBy_runChecks
  cases hr : runChecks claims context <;> cases hf : firstTold? claims context <;>
    simp_all [toldBy, verdict]

private theorem validateClaims_of_told {uri : String} {told : Told}
    (h : Trusted claims context.client uri) (htold : firstTold? claims context = some told) :
    ∃ rejection, rejection.told = told ∧
      validateClaims claims context = .recoverable ⟨rejection, uri, claims.state⟩ := by
  have hverdict : toldBy (runChecks claims context) = _ := toldBy_runChecks
  rw [validateClaims, trustedRedirect_eq_ok_iff.mpr h]
  cases hr : runChecks claims context with
  | ok =>
    rw [runChecks_eq_ok_iff_told.mp hr] at htold
    cases htold
  | error rejection =>
    rw [hr, htold] at hverdict
    exact ⟨rejection, Except.error.inj hverdict, rfl⟩

private theorem validateClaims_of_none {uri : String} (h : Trusted claims context.client uri)
    (hnone : firstTold? claims context = none) :
    validateClaims claims context = .valid ⟨context.client.clientId, claims, uri⟩ := by
  rw [validateClaims, trustedRedirect_eq_ok_iff.mpr h, runChecks_eq_ok_iff_told.mpr hnone]

private theorem accounts_of_recoverable {failure : RecoverableFailure}
    (h : validateClaims claims context = .recoverable failure) :
    Accounts claims context failure.rejection.told := by
  obtain ⟨uri, htrusted⟩ : ∃ uri, Trusted claims context.client uri :=
    ⟨failure.redirectUri, validateClaims_redirectUri?.mp (by rw [h]; rfl)⟩
  cases hfirst : firstTold? claims context with
  | none =>
    rw [validateClaims_of_none htrusted hfirst] at h
    cases h
  | some told =>
    obtain ⟨rejection, rfl, hrejected⟩ := validateClaims_of_told htrusted hfirst
    obtain rfl := Outcome.recoverable.inj (hrejected.symm.trans h)
    obtain ⟨condition, -, hcondition⟩ := List.exists_of_findSome?_eq_some hfirst
    exact accounts_of_told? hcondition

end Checks

/-- Claims with a trusted redirect target are valid if no check refuses them. Otherwise the client
is told there of the first condition that they fail, by its reason and in its words, with the state
the claims came with. Without such a target nothing else about them matters. -/
theorem validateClaims_tells_first_failure (claims : Claims) (context : Context) :
    (∀ uri, Trusted claims context.client uri →
      ((∃ request, validateClaims claims context = .valid request) ↔
        ∀ check ∈ checks, check.2 claims context = .ok ()) ∧
      (firstTold? claims context = none →
        validateClaims claims context = .valid ⟨context.client.clientId, claims, uri⟩) ∧
      ∀ told, firstTold? claims context = some told → ∃ rejection,
        rejection.reason = told.reason ∧ rejection.description = told.description ∧
        validateClaims claims context = .recoverable ⟨rejection, uri, claims.state⟩) ∧
    (∀ failure, validateClaims claims context = .recoverable failure →
      Accounts claims context failure.rejection.told) ∧
    ((∀ uri url, claims.redirectUri = some uri → Url.parse uri ≠ .ok url) →
      validateClaims claims context = .fatal ⟨.requestObjectInvalid,
        "Failed to parse JWT claim set in order to access redirect_uri claim"⟩) ∧
    ∀ uri url, claims.redirectUri = some uri → Url.parse uri = .ok url →
      uri ∉ context.client.redirectUris →
      validateClaims claims context = .fatal ⟨.invalidGrant,
        "Invalid redirect_uri claim provided for configured client"⟩ := by
  refine ⟨fun uri htrusted => ⟨?_, validateClaims_of_none htrusted, fun told htold => ?_⟩,
    fun failure => accounts_of_recoverable, fun habsolute => ?_,
    fun uri url huri hurl hunknown => ?_⟩
  · have hpassed : (∀ check ∈ checks, check.2 claims context = .ok ()) ↔
        runChecks claims context = .ok () :=
      (forM_eq_ok_iff (f := fun check : String × Check => check.2 claims context)).symm
    rw [hpassed]
    constructor
    · rintro ⟨request, hvalid⟩
      obtain ⟨_, -, hsound, -⟩ := validateClaims_eq_valid_iff.mp hvalid
      exact runChecks_eq_ok_iff.mpr hsound
    · intro hchecks
      exact ⟨_, validateClaims_of_none htrusted (runChecks_eq_ok_iff_told.mp hchecks)⟩
  · obtain ⟨rejection, rfl, hrejected⟩ := validateClaims_of_told htrusted htold
    exact ⟨rejection, rfl, rfl, hrejected⟩
  · rw [validateClaims, trustedRedirect_of_not_absolute habsolute]
    rfl
  · rw [validateClaims, trustedRedirect_of_unregistered huri hurl hunknown]
    rfl

/-- Claims without an issuer and an audience, of a wrong kind and long expired. -/
def sampleNameless : Claims where
  iss := none
  sub := some "user"
  aud := none
  exp := some 0
  nbf := some 0
  iat := some 0
  responseType := some "token"
  clientId := none
  redirectUri := some "app:back"
  state := some "s"
  additional := []

/-- Of all that is wrong with them only the absent issuer is told, even where the client's own
issuer is the empty text. -/
theorem sampleNameless_claimsMissing :
    Trusted sampleNameless sampleClient "app:back" ∧
      ∃ rejection : Rejection, rejection.reason = .missingClaims ∧
        rejection.description = "JWT missing required claims: [iss]" ∧
        validateClaims sampleNameless
            (.of { sampleClient with issuer := "" } ⟨3600000000000, 0⟩ .fromNow .zero) =
          .recoverable ⟨rejection, "app:back", some "s"⟩ := by
  have hparse : (Url.parse "app:back").toOption.isSome = true := by decide +kernel
  obtain ⟨url, hurl⟩ := Option.isSome_iff_exists.mp hparse
  have htrusted : Trusted sampleNameless sampleClient "app:back" :=
    ⟨rfl, ⟨url, toOption_eq_some_iff.mp hurl⟩, List.mem_singleton_self _⟩
  have htold : firstTold? sampleNameless
      (.of { sampleClient with issuer := "" } ⟨3600000000000, 0⟩ .fromNow .zero) =
        some ⟨.missingClaims, "JWT missing required claims: [iss]"⟩ := by
    decide +kernel
  refine ⟨htrusted, ?_⟩
  exact ((validateClaims_tells_first_failure sampleNameless
    (.of { sampleClient with issuer := "" } ⟨3600000000000, 0⟩ .fromNow .zero)).1 "app:back"
      htrusted).2.2 _ htold

end CredentialIssuer.RequestObject
