import CredentialIssuer.Proofs.RequestObject.Acceptance
import CredentialIssuer.Text.Digits
import CredentialIssuer.Time.Timestamp

/-! The time bounds in exact whole numbers, and for how long they let one request be used. -/
namespace CredentialIssuer

namespace Saturating

private theorem toInt_clamp (n : Int) : (clamp n).toInt = max (-2 ^ 63) (min n (2 ^ 63 - 1)) := by
  have hmin : Int64.minValue.toInt = -2 ^ 63 := by decide
  have hmax : Int64.maxValue.toInt = 2 ^ 63 - 1 := by decide
  unfold clamp
  split
  · omega
  · split
    · omega
    · rw [Int64.toInt_ofInt_of_le (by omega) (by omega)]
      omega

private theorem toInt_add (a b : Int64) :
    (add a b).toInt = max (-2 ^ 63) (min (a.toInt + b.toInt) (2 ^ 63 - 1)) :=
  toInt_clamp _

private theorem toInt_sub (a b : Int64) :
    (sub a b).toInt = max (-2 ^ 63) (min (a.toInt - b.toInt) (2 ^ 63 - 1)) :=
  toInt_clamp _

end Saturating

namespace RequestObject

/-- The seconds of the clock skew; beyond 64 bits more of them make no difference. -/
def skewSeconds (clockSkew : TimeSpan) : Int := min clockSkew.seconds (2 ^ 63 - 1)

def lifetimeStart (policy : TtlPolicy) (now : Timestamp) (iat : Int64) : Int :=
  match policy with
  | .fromNow => now.unixSeconds
  | .fromIssuedAt => iat.toInt

private theorem toInt_wholeSeconds (span : TimeSpan) :
    (Context.wholeSeconds span).toInt = min span.seconds (2 ^ 63 - 1) := by
  rw [Context.wholeSeconds, Saturating.toInt_clamp]
  omega

section Bounds

variable {client : ClientTrust} {now : Timestamp} {policy : TtlPolicy} {clockSkew : TimeSpan}
  {exp nbf iat : Int64}

private theorem toInt_now (h : now.OnCalendar) :
    (Context.of client now policy clockSkew).now.toInt = now.unixSeconds :=
  h.toInt_unixSeconds

private theorem toInt_clockSkew :
    (Context.of client now policy clockSkew).clockSkew.toInt = skewSeconds clockSkew := by
  change (Context.wholeSeconds clockSkew).toInt = _
  rw [toInt_wholeSeconds, skewSeconds]
  omega

private theorem toInt_maxTtl :
    (Context.of client now policy clockSkew).maxTtl.toInt =
      min (client.maxTokenTtl.seconds : Int) (2 ^ 63 - 1) := by
  change (Context.wholeSeconds client.maxTokenTtl).toInt = _
  rw [toInt_wholeSeconds]
  omega

/-- No time of the calendar less a skew lies above the range. -/
private theorem toInt_earliest (h : now.OnCalendar) :
    (Saturating.sub (Context.of client now policy clockSkew).now
      (Context.of client now policy clockSkew).clockSkew).toInt =
        max (-2 ^ 63) (now.unixSeconds - skewSeconds clockSkew) := by
  have hnow := h.unixSeconds_bounds
  rw [Saturating.toInt_sub, toInt_now h, toInt_clockSkew, skewSeconds]
  omega

/-- No time of the calendar and a skew lie below the range. -/
private theorem toInt_latest (h : now.OnCalendar) :
    (Saturating.add (Context.of client now policy clockSkew).now
      (Context.of client now policy clockSkew).clockSkew).toInt =
        min (now.unixSeconds + skewSeconds clockSkew) (2 ^ 63 - 1) := by
  have hnow := h.unixSeconds_bounds
  rw [Saturating.toInt_add, toInt_now h, toInt_clockSkew, skewSeconds]
  omega

private theorem toInt_lifetime (h : now.OnCalendar) :
    (lifetime (Context.of client now policy clockSkew) exp iat).toInt =
      max (-2 ^ 63) (min (exp.toInt - lifetimeStart policy now iat) (2 ^ 63 - 1)) := by
  cases policy with
  | fromNow =>
    rw [lifetimeStart, ← toInt_now h]
    exact Saturating.toInt_sub exp _
  | fromIssuedAt => exact Saturating.toInt_sub exp iat

/-- When claims have expired, in exact seconds. -/
theorem expired_iff (h : now.OnCalendar) :
    exp < Saturating.sub (Context.of client now policy clockSkew).now
        (Context.of client now policy clockSkew).clockSkew ↔
      exp.toInt < now.unixSeconds - skewSeconds clockSkew := by
  have hexp := exp.le_toInt
  rw [Int64.lt_iff_toInt_lt, toInt_earliest h]
  omega

/-- When claims are not valid yet, in exact seconds. -/
theorem notYetValid_iff (h : now.OnCalendar) :
    Saturating.add (Context.of client now policy clockSkew).now
        (Context.of client now policy clockSkew).clockSkew < nbf ↔
      now.unixSeconds + skewSeconds clockSkew < nbf.toInt := by
  have hnbf := nbf.toInt_lt
  rw [Int64.lt_iff_toInt_lt, toInt_latest h]
  omega

/-- A limit at the end of the range refuses nothing. -/
theorem ttlExceeded_iff (h : now.OnCalendar) :
    (Context.of client now policy clockSkew).maxTtl <
        lifetime (Context.of client now policy clockSkew) exp iat ↔
      client.maxTokenTtl.seconds < 2 ^ 63 - 1 ∧
        client.maxTokenTtl.seconds < exp.toInt - lifetimeStart policy now iat := by
  rw [Int64.lt_iff_toInt_lt, toInt_maxTtl, toInt_lifetime h]
  omega

/-- Claims are timely when this holds in exact whole numbers. -/
theorem timely_of_iff {claims : Claims} (h : now.OnCalendar) :
    Timely claims (.of client now policy clockSkew) ↔
      ∃ exp nbf iat, claims.exp = some exp ∧ claims.nbf = some nbf ∧ claims.iat = some iat ∧
        now.unixSeconds - skewSeconds clockSkew ≤ exp.toInt ∧
        nbf.toInt ≤ now.unixSeconds + skewSeconds clockSkew ∧
        (client.maxTokenTtl.seconds < 2 ^ 63 - 1 →
          exp.toInt - lifetimeStart policy now iat ≤ client.maxTokenTtl.seconds) := by
  unfold Timely
  refine exists_congr fun exp => exists_congr fun nbf => exists_congr fun iat => ?_
  rw [← Int64.not_lt, expired_iff h, ← Int64.not_lt (b := nbf), notYetValid_iff h, ← Int64.not_lt,
    ttlExceeded_iff h, not_and]
  simp only [Int.not_lt]

end Bounds

section Replay

variable {claims : Claims} {client : ClientTrust} {policy : TtlPolicy} {clockSkew : TimeSpan}
  {first later : Timestamp}

/-- The first use bounds the expiry from above, and the later one bounds it from below. -/
private theorem later_le (hfirst : first.OnCalendar) (hlater : later.OnCalendar)
    (hlimit : client.maxTokenTtl.seconds < 2 ^ 63 - 1)
    (h : Timely claims (.of client first policy clockSkew))
    (h' : Timely claims (.of client later policy clockSkew)) :
    ∃ iat, claims.iat = some iat ∧
      later.unixSeconds - skewSeconds clockSkew ≤
        lifetimeStart policy first iat + client.maxTokenTtl.seconds := by
  obtain ⟨exp, nbf, iat, hexp, -, hiat, -, -, httl⟩ := (timely_of_iff hfirst).mp h
  obtain ⟨exp', nbf', iat', hexp', -, -, hlive, -, -⟩ := (timely_of_iff hlater).mp h'
  obtain rfl : exp = exp' := Option.some.inj (hexp.symm.trans hexp')
  have hlifetime := httl hlimit
  exact ⟨iat, hiat, by omega⟩

/-- Claims that are accepted twice are accepted within the longest lifetime and twice the skew,
unless lifetimes are counted from the moment of issue and that moment was still to come when they
were accepted first. -/
theorem accepted_span_le {request request' : ValidatedRequest} (hfirst : first.OnCalendar)
    (hlater : later.OnCalendar)
    (hissued : policy = .fromIssuedAt → ∀ iat, claims.iat = some iat →
      iat.toInt ≤ first.unixSeconds + clockSkew.seconds)
    (h : validateClaims claims (.of client first policy clockSkew) = .valid request)
    (h' : validateClaims claims (.of client later policy clockSkew) = .valid request') :
    later.unixSeconds - first.unixSeconds ≤
      client.maxTokenTtl.seconds + 2 * clockSkew.seconds := by
  obtain ⟨-, -, hsound, -⟩ := validateClaims_eq_valid_iff.mp h
  obtain ⟨-, -, hsound', -⟩ := validateClaims_eq_valid_iff.mp h'
  have hskew : skewSeconds clockSkew ≤ clockSkew.seconds := by
    rw [skewSeconds]
    omega
  by_cases hlimit : client.maxTokenTtl.seconds < 2 ^ 63 - 1
  · obtain ⟨iat, hiat, hle⟩ := later_le hfirst hlater hlimit hsound.times hsound'.times
    cases policy with
    | fromNow =>
      rw [lifetimeStart] at hle
      omega
    | fromIssuedAt =>
      have hstart := hissued rfl iat hiat
      rw [lifetimeStart] at hle
      omega
  · -- Such a limit is longer than the calendar.
    have hbounds := hfirst.unixSeconds_bounds
    have hbounds' := hlater.unixSeconds_bounds
    omega

/-- Claims of the sample client that are good from the start, with these times of issue and
expiry. -/
def sampleClaims (iat exp : Int64) : Claims where
  iss := some "app"
  sub := some "user"
  aud := some (.one "issuer")
  exp := some exp
  nbf := some 0
  iat := some iat
  responseType := some "code"
  clientId := none
  redirectUri := some "app:back"
  state := none
  additional := []

def sampleTime (seconds : Int) : Timestamp := ⟨seconds * 1000000000, 0⟩

private theorem validateClaims_sample {iat exp : Int64} {now : Timestamp}
    (h : Timely (sampleClaims iat exp) (.of sampleClient now .fromIssuedAt .zero)) :
    validateClaims (sampleClaims iat exp) (.of sampleClient now .fromIssuedAt .zero) =
      .valid ⟨"app", sampleClaims iat exp, "app:back"⟩ := by
  have hparse : (Url.parse "app:back").toOption.isSome = true := by decide +kernel
  obtain ⟨url, hurl⟩ := Option.isSome_iff_exists.mp hparse
  refine validateClaims_eq_valid_iff.mpr ⟨"app:back", ?_, ?_, rfl⟩
  · exact ⟨rfl, ⟨url, toOption_eq_some_iff.mp hurl⟩, List.mem_singleton_self _⟩
  · exact ⟨⟨"user", rfl⟩, ⟨.one "issuer", rfl, List.mem_singleton_self _⟩, rfl, rfl, h⟩

/-- The bound is reached. -/
theorem accepted_span_le_minute :
    validateClaims (sampleClaims 0 60) (.of sampleClient (sampleTime 0) .fromIssuedAt .zero) =
        .valid ⟨"app", sampleClaims 0 60, "app:back"⟩ ∧
      validateClaims (sampleClaims 0 60) (.of sampleClient (sampleTime 60) .fromIssuedAt .zero) =
        .valid ⟨"app", sampleClaims 0 60, "app:back"⟩ ∧
      (sampleTime 60).unixSeconds - (sampleTime 0).unixSeconds ≤
        sampleClient.maxTokenTtl.seconds + 2 * TimeSpan.zero.seconds := by
  have h := @validateClaims_sample 0 60 (sampleTime 0)
    ⟨60, 0, 0, rfl, rfl, rfl, by decide, by decide, by decide⟩
  have h' := @validateClaims_sample 0 60 (sampleTime 60)
    ⟨60, 0, 0, rfl, rfl, rfl, by decide, by decide, by decide⟩
  refine ⟨h, h', accepted_span_le ?_ ?_ ?_ h h'⟩
  · exact ⟨by decide, by decide, by decide⟩
  · exact ⟨by decide, by decide, by decide⟩
  · rintro - iat hiat
    obtain rfl : 0 = iat := Option.some.inj hiat
    decide

/-- Claims that are issued and expire an hour from now are accepted now and then, though no
lifetime of more than a minute is. -/
theorem postdated_accepted_for_hour :
    validateClaims (sampleClaims 3600 3600) (.of sampleClient (sampleTime 0) .fromIssuedAt .zero) =
        .valid ⟨"app", sampleClaims 3600 3600, "app:back"⟩ ∧
      validateClaims (sampleClaims 3600 3600)
          (.of sampleClient (sampleTime 3600) .fromIssuedAt .zero) =
        .valid ⟨"app", sampleClaims 3600 3600, "app:back"⟩ ∧
      ¬ (sampleTime 3600).unixSeconds - (sampleTime 0).unixSeconds ≤
        sampleClient.maxTokenTtl.seconds + 2 * TimeSpan.zero.seconds := by
  refine ⟨validateClaims_sample ?_, validateClaims_sample ?_, by decide⟩
  · exact ⟨3600, 0, 3600, rfl, rfl, rfl, by decide, by decide, by decide⟩
  · exact ⟨3600, 0, 3600, rfl, rfl, rfl, by decide, by decide, by decide⟩

end Replay

/-- Any three times are judged as exact whole numbers would judge them. Nothing wraps on the way:
what stops at an end of the range has an exact value beyond all that it is compared with. -/
theorem checkTimes_eq_exact (claims : Claims) (client : ClientTrust) (now : Timestamp)
    (policy : TtlPolicy) (clockSkew : TimeSpan) (exp nbf iat : Int64) (h : now.OnCalendar) :
    let context := Context.of client now policy clockSkew
    let s := skewSeconds clockSkew
    checkTimes { claims with exp := some exp, nbf := some nbf, iat := some iat } context =
      (if exp.toInt < now.unixSeconds - s then .error .expired
      else if now.unixSeconds + s < nbf.toInt then .error .notYetValid
      else if client.maxTokenTtl.seconds < 2 ^ 63 - 1 ∧
          client.maxTokenTtl.seconds < exp.toInt - lifetimeStart policy now iat then
        .error .ttlExceeded
      else .ok ()) ∧
    context.now.toInt = now.unixSeconds ∧ context.clockSkew.toInt = s ∧
    context.maxTtl.toInt = min (client.maxTokenTtl.seconds : Int) (2 ^ 63 - 1) ∧
    (Saturating.sub context.now context.clockSkew).toInt = max (-2 ^ 63) (now.unixSeconds - s) ∧
    (Saturating.add context.now context.clockSkew).toInt =
      min (now.unixSeconds + s) (2 ^ 63 - 1) ∧
    (lifetime context exp iat).toInt =
      max (-2 ^ 63) (min (exp.toInt - lifetimeStart policy now iat) (2 ^ 63 - 1)) := by
  refine ⟨?_, toInt_now h, toInt_clockSkew, toInt_maxTtl, toInt_earliest h, toInt_latest h,
    toInt_lifetime h⟩
  simp only [checkTimes, expired_iff h, notYetValid_iff h, ttlExceeded_iff h]

/-- A skew and a lifetime far beyond the range, and times at both of its ends. -/
theorem checkTimes_at_limits :
    (sampleTime 0).OnCalendar ∧
      checkTimes { sampleClaims 0 0 with
          exp := some Int64.maxValue, nbf := some Int64.maxValue, iat := some Int64.minValue }
        (.of { sampleClient with maxTokenTtl := .ofSeconds (2 ^ 63 - 2) } (sampleTime 0)
          .fromIssuedAt (.ofSeconds (2 ^ 64 - 1))) = .error .ttlExceeded := by
  have h : (sampleTime 0).OnCalendar := ⟨by decide, by decide, by decide⟩
  exact ⟨h, (checkTimes_eq_exact (sampleClaims 0 0) _ _ _ _ _ _ _ h).1.trans rfl⟩

end RequestObject

end CredentialIssuer
