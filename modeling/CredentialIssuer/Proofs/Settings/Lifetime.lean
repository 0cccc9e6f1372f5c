import CredentialIssuer.Proofs.RequestObject.TimeBounds
import CredentialIssuer.Proofs.Settings.Issuer

/-! Whether a longest lifetime leaves room for any request. Lifetimes are compared in whole seconds,
so that a limit below one second counts as none. -/
namespace CredentialIssuer.RequestObject

def Claims.Live (claims : Claims) (now : Timestamp) : Prop :=
  ∃ iat exp, claims.iat = some iat ∧ claims.exp = some exp ∧ iat.toInt ≤ now.unixSeconds ∧
    now.unixSeconds < exp.toInt

/-- Claims of a client that are issued now and live for one second. -/
def briefClaims (client : ClientTrust) (uri : String) (now : Timestamp) : Claims where
  iss := some client.issuer
  sub := some "user"
  aud := some (.one client.audience)
  exp := some (Int64.ofInt (now.unixSeconds + 1))
  nbf := some (Int64.ofInt now.unixSeconds)
  iat := some (Int64.ofInt now.unixSeconds)
  responseType := some "code"
  clientId := none
  redirectUri := some uri
  state := none
  additional := []

section Room

variable {client : ClientTrust} {now : Timestamp} {policy : TtlPolicy} {clockSkew : TimeSpan}
  {claims : Claims} {uri : String}

private theorem toInt_expiry (h : now.OnCalendar) :
    (Int64.ofInt (now.unixSeconds + 1)).toInt = now.unixSeconds + 1 := by
  have hbounds := h.unixSeconds_bounds
  exact Int64.toInt_ofInt_of_le (by omega) (by omega)

private theorem briefClaims_live (h : now.OnCalendar) : (briefClaims client uri now).Live now := by
  refine ⟨_, _, rfl, rfl, ?_, ?_⟩
  · rw [h.toInt_unixSeconds]
  · rw [toInt_expiry h]
    omega

/-- A lifetime that is left is a second at least, from whenever it is counted. -/
private theorem Claims.Live.one_le (hlive : claims.Live now) {exp iat : Int64}
    (hexp : claims.exp = some exp) (hiat : claims.iat = some iat) :
    1 ≤ exp.toInt - lifetimeStart policy now iat := by
  obtain ⟨iat', exp', hiat', hexp', hissued, hleft⟩ := hlive
  obtain rfl : iat = iat' := Option.some.inj (hiat.symm.trans hiat')
  obtain rfl : exp = exp' := Option.some.inj (hexp.symm.trans hexp')
  cases policy with
  | fromNow =>
    rw [lifetimeStart]
    omega
  | fromIssuedAt =>
    rw [lifetimeStart]
    omega

private theorem one_le_of_timely (h : now.OnCalendar) (hlive : claims.Live now)
    (htimely : Timely claims (.of client now policy clockSkew)) :
    1 ≤ client.maxTokenTtl.seconds := by
  obtain ⟨exp, nbf, iat, hexp, -, hiat, -, -, httl⟩ := (timely_of_iff h).mp htimely
  have hlifetime : 1 ≤ exp.toInt - lifetimeStart policy now iat := hlive.one_le hexp hiat
  by_cases hlimit : client.maxTokenTtl.seconds < 2 ^ 63 - 1
  · have hle := httl hlimit
    omega
  · omega

private theorem timely_briefClaims (h : now.OnCalendar) (hlimit : 1 ≤ client.maxTokenTtl.seconds) :
    Timely (briefClaims client uri now) (.of client now policy clockSkew) := by
  have hskew : 0 ≤ skewSeconds clockSkew := by
    rw [skewSeconds]
    omega
  refine (timely_of_iff h).mpr ⟨_, _, _, rfl, rfl, rfl, ?_, ?_, fun _ => ?_⟩
  · rw [toInt_expiry h]
    omega
  · rw [h.toInt_unixSeconds]
    omega
  · rw [toInt_expiry h]
    cases policy with
    | fromNow =>
      rw [lifetimeStart]
      omega
    | fromIssuedAt =>
      rw [lifetimeStart, h.toInt_unixSeconds]
      omega

/-- A client with a redirect target has live claims accepted exactly if its limit is a second. -/
theorem exists_live_valid_iff (h : now.OnCalendar) (huri : uri ∈ client.redirectUris)
    (hurl : ∃ url, Url.parse uri = .ok url) :
    (∃ claims request, claims.Live now ∧
      validateClaims claims (.of client now policy clockSkew) = .valid request) ↔
      1 ≤ client.maxTokenTtl.seconds := by
  constructor
  · rintro ⟨claims, request, hlive, hvalid⟩
    obtain ⟨-, -, hsound, -⟩ := validateClaims_eq_valid_iff.mp hvalid
    exact one_le_of_timely h hlive hsound.times
  · intro hlimit
    have hsound : Sound (briefClaims client uri now) (.of client now policy clockSkew) :=
      { subject := ⟨_, rfl⟩
        audience := ⟨_, rfl, List.mem_singleton_self _⟩
        issuer := rfl
        responseType := rfl
        times := timely_briefClaims h hlimit }
    exact ⟨_, _, briefClaims_live h,
      validateClaims_eq_valid_iff.mpr ⟨uri, ⟨rfl, hurl, huri⟩, hsound, rfl⟩⟩

end Room

end CredentialIssuer.RequestObject

namespace CredentialIssuer.Settings

open RequestObject

private theorem one_le_seconds_iff {span : TimeSpan} :
    1 ≤ span.seconds ↔ 1000000000 ≤ span.totalNanos := by
  have hnanos := span.nanos_lt
  rw [TimeSpan.totalNanos]
  omega

/-- Settings that are in order give their clients a limit above zero, and live claims of a client
with a redirect target are accepted exactly if it is a whole second or more. -/
theorem limit_leaves_room_iff (s : IssuerSettings) (id uri : String) (client : ClientTrust)
    (now : Timestamp) (hvalid : s.validate = .ok ())
    (hclient : s.clientStore id = .ok (some client)) (huri : uri ∈ client.redirectUris)
    (hurl : ∃ url, Url.parse uri = .ok url) (hnow : now.OnCalendar) :
    0 < s.requests.maxTokenTtl.totalNanos ∧
      ((∃ claims request, claims.Live now ∧
        validateClaims claims (.of client now s.requests.policy s.requests.clockSkew) =
          .valid request) ↔
        1000000000 ≤ s.requests.maxTokenTtl.totalNanos) := by
  have hlimit : client.maxTokenTtl = s.requests.maxTokenTtl := by
    obtain ⟨c, -, rfl⟩ := IssuerSettings.clientStore_eq_some_iff.mp hclient
    rfl
  refine ⟨(IssuerSettings.validate_eq_ok_iff.mp hvalid).limit, ?_⟩
  rw [exists_live_valid_iff hnow huri hurl, hlimit, one_le_seconds_iff]

def sampleSettings (limit : TimeSpan) : IssuerSettings where
  audience := "issuer"
  requests := { RequestSettings.default with maxTokenTtl := limit }
  codes := .default
  signing := .default
  clients := .ofList [("app", ⟨"app", "", ["app:back"]⟩)]

def sampleTrust (limit : TimeSpan) : ClientTrust :=
  ⟨"app", "app", "issuer", "", ["app:back"], limit⟩

private theorem sampleSettings_valid (limit : TimeSpan) (h : 0 < limit.totalNanos) :
    (sampleSettings limit).validate = .ok () := by
  have haudience : "issuer" ≠ "" := by decide
  have hexpiry : 0 < CodeSettings.default.expiry.totalNanos := by decide
  have hle : CodeSettings.default.expiry.totalNanos ≤ maxCodeExpiry.totalNanos := by decide
  refine IssuerSettings.validate_eq_ok_iff.mpr
    ⟨haudience, h, hexpiry, hle, List.cons_ne_nil _ _, ?_⟩
  intro client hclient
  obtain rfl := List.mem_singleton.mp hclient
  exact ⟨by decide, by decide⟩

private theorem sampleUri_absolute : ∃ url, Url.parse "app:back" = .ok url := by
  have hparse : (Url.parse "app:back").toOption.isSome = true := by decide +kernel
  obtain ⟨url, hurl⟩ := Option.isSome_iff_exists.mp hparse
  exact ⟨url, toOption_eq_some_iff.mp hurl⟩

private theorem sampleTime_onCalendar : (sampleTime 0).OnCalendar := by
  exact ⟨by decide, by decide, by decide⟩

/-- A limit of one second leaves room. -/
theorem limit_leaves_room_second :
    (sampleSettings (.ofSeconds 1)).validate = .ok () ∧
      (sampleSettings (.ofSeconds 1)).clientStore "app" = .ok (some (sampleTrust (.ofSeconds 1))) ∧
      ∃ claims request, claims.Live (sampleTime 0) ∧
        validateClaims claims (.of (sampleTrust (.ofSeconds 1)) (sampleTime 0) .fromNow .zero) =
          .valid request := by
  have hvalid := sampleSettings_valid (.ofSeconds 1) (by decide)
  have hclient : (sampleSettings (.ofSeconds 1)).clientStore "app" =
      .ok (some (sampleTrust (.ofSeconds 1))) := rfl
  have hroom := limit_leaves_room_iff (sampleSettings (.ofSeconds 1)) "app" "app:back" _
    (sampleTime 0) hvalid hclient List.mem_cons_self sampleUri_absolute sampleTime_onCalendar
  exact ⟨hvalid, hclient, hroom.2.mpr (by decide)⟩

def halfSecond : TimeSpan := { TimeSpan.zero with nanos := 500000000, nanos_lt := by decide }

/-- Half a second is accepted as a limit, and then no live claims are. -/
theorem halfSecond_leaves_no_room :
    (sampleSettings halfSecond).validate = .ok () ∧
      (sampleSettings halfSecond).clientStore "app" = .ok (some (sampleTrust halfSecond)) ∧
      "app:back" ∈ (sampleTrust halfSecond).redirectUris ∧
      (∃ url, Url.parse "app:back" = .ok url) ∧ (sampleTime 0).OnCalendar ∧
      ¬ ∃ claims request, claims.Live (sampleTime 0) ∧
        validateClaims claims (.of (sampleTrust halfSecond) (sampleTime 0) .fromNow .zero) =
          .valid request := by
  refine ⟨sampleSettings_valid halfSecond (by decide), rfl, List.mem_cons_self, sampleUri_absolute,
    sampleTime_onCalendar, ?_⟩
  rw [exists_live_valid_iff sampleTime_onCalendar List.mem_cons_self sampleUri_absolute]
  decide

end CredentialIssuer.Settings
