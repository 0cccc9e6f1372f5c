import CredentialIssuer.Proofs.Keyed
import CredentialIssuer.Proofs.Result
import CredentialIssuer.Settings.Issuer

/-! What settings have to meet, and which settings a client's record is made of. -/
namespace CredentialIssuer.Settings

structure ClientSettings.Valid (c : ClientSettings) : Prop where
  issuer : c.issuer ≠ ""
  redirectUris : c.redirectUris ≠ []

structure IssuerSettings.Valid (s : IssuerSettings) : Prop where
  audience : s.audience ≠ ""
  limit : 0 < s.requests.maxTokenTtl.totalNanos
  expiry : 0 < s.codes.expiry.totalNanos
  expiry_le : s.codes.expiry.totalNanos ≤ maxCodeExpiry.totalNanos
  registered : s.clients.entries ≠ []
  clients : ∀ client ∈ s.clients.entries, client.2.Valid

private theorem require_eq_ok_iff {condition : Bool} {fault : IssuerFault} :
    require condition fault = .ok () ↔ condition = true := by
  cases condition <;> simp [require]

private theorem require_bind_eq_ok_iff {condition : Bool} {fault : IssuerFault}
    {rest : Except IssuerFault Unit} :
    (do require condition fault; rest) = .ok () ↔ condition = true ∧ rest = .ok () := by
  rw [bind_eq_ok_iff]
  constructor
  · rintro ⟨⟨⟩, h, hrest⟩
    exact ⟨require_eq_ok_iff.mp h, hrest⟩
  · rintro ⟨h, hrest⟩
    exact ⟨(), require_eq_ok_iff.mpr h, hrest⟩

private theorem isZero_eq_false_iff {span : TimeSpan} :
    (!span.isZero) = true ↔ 0 < span.totalNanos := by
  simp only [TimeSpan.isZero, TimeSpan.totalNanos, Bool.not_eq_true', Bool.and_eq_false_iff,
    beq_eq_false_iff_ne]
  omega

/-- The check of a client passes exactly on valid settings. -/
theorem validateClient_eq_ok_iff {id : String} {c : ClientSettings} :
    validateClient id c = .ok () ↔ c.Valid := by
  rw [validateClient, require_bind_eq_ok_iff, require_eq_ok_iff]
  constructor
  · rintro ⟨hissuer, huris⟩
    exact ⟨by simpa using hissuer, by simpa using huris⟩
  · intro h
    exact ⟨by simpa using h.issuer, by simpa using h.redirectUris⟩

/-- The check of an issuer passes exactly on valid settings. -/
theorem IssuerSettings.validate_eq_ok_iff {s : IssuerSettings} :
    s.validate = .ok () ↔ s.Valid := by
  rw [validate]
  simp only [require_bind_eq_ok_iff, isZero_eq_false_iff, forM_eq_ok_iff, Prod.forall,
    validateClient_eq_ok_iff]
  constructor
  · rintro ⟨haudience, hlimit, hexpiry, hle, hregistered, hall⟩
    exact ⟨by simpa using haudience, hlimit, hexpiry, of_decide_eq_true hle,
      by simpa [Keyed.isEmpty] using hregistered, fun client => hall client.1 client.2⟩
  · intro h
    exact ⟨by simpa using h.audience, h.limit, h.expiry, decide_eq_true h.expiry_le,
      by simpa [Keyed.isEmpty] using h.registered, fun id c => h.clients (id, c)⟩

/-- A client is known under its id, with the audience and the limit of the issuer. -/
theorem IssuerSettings.clientStore_eq_some_iff {s : IssuerSettings} {id : String}
    {client : ClientTrust} :
    s.clientStore id = .ok (some client) ↔ ∃ c, s.clients.find? id = some c ∧
      client = ⟨id, c.issuer, s.audience, c.signingKey, c.redirectUris,
        s.requests.maxTokenTtl⟩ := by
  simp only [clientStore, client?, Except.ok.injEq, Option.map_eq_some_iff]
  exact exists_congr fun c => and_congr_right fun _ => eq_comm

end CredentialIssuer.Settings
