import CredentialIssuer.Proofs.RequestObject.Acceptance

/-! Which redirect target an outcome may use: the one that its client registered and signed, and
none before that is settled. -/
namespace CredentialIssuer.RequestObject

/-- Where the client is told of an outcome; a fatal one has no such place. -/
def Outcome.redirectUri? : Outcome → Option String
  | .valid request => some request.redirectUri
  | .recoverable failure => some failure.redirectUri
  | .fatal _ => none

/-- An outcome may use a redirect target exactly if it is trusted. -/
theorem validateClaims_redirectUri? {claims : Claims} {context : Context} {uri : String} :
    (validateClaims claims context).redirectUri? = some uri ↔
      Trusted claims context.client uri := by
  rw [← trustedRedirect_eq_ok_iff, validateClaims]
  cases trustedRedirect claims context.client with
  | error failure => simp [Outcome.redirectUri?]
  | ok found => cases hr : runChecks claims context <;> simp [Outcome.redirectUri?]

/-- An outcome is told by redirect exactly when a token of the client itself names a target that is
registered for it, whether or not the rest of the claims is sound. -/
theorem validateAt_redirectUri? (v : Validator) (compact clientId : String) (now : Timestamp)
    (uri : String) :
    (v.validateAt compact clientId now).redirectUri? = some uri ↔
      ∃ signed client claims, Opens v.keys compact signed ∧
        Authentic v.clients clientId signed client claims ∧ Trusted claims client uri := by
  unfold Validator.validateAt
  constructor
  · intro h
    split at h
    · cases h
    · rename_i client claims hc
      obtain ⟨signed, ho, ha⟩ := verifiedClaims_eq_ok_iff.mp hc
      exact ⟨signed, client, claims, ho, ha, validateClaims_redirectUri?.mp h⟩
  · rintro ⟨signed, client, claims, ho, ha, ht⟩
    simp only [verifiedClaims_eq_ok_iff.mpr ⟨signed, ho, ha⟩]
    exact validateClaims_redirectUri?.mpr ht

/-- A target that an outcome may use is an absolute address. -/
theorem parse_of_redirectUri? {v : Validator} {compact clientId uri : String} {now : Timestamp}
    (h : (v.validateAt compact clientId now).redirectUri? = some uri) :
    ∃ url, Url.parse uri = .ok url := by
  obtain ⟨_, _, _, -, -, ht⟩ := (validateAt_redirectUri? v compact clientId now uri).mp h
  exact ht.2.1

end CredentialIssuer.RequestObject
