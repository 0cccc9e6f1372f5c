import CredentialIssuer.Credential.Basic
import CredentialIssuer.Proofs.IdentityCheck

/-! Credentials as documents, member by member. They are written exactly, and are read back from
what is written at whatever level they stand. -/
namespace CredentialIssuer

@[simp] theorem NameKind.ofText?_text (kind : NameKind) : ofText? kind.text = some kind := by
  cases kind <;> rfl

namespace NamePart

/-- The days of validity are no members of the part's own, and the other way round. -/
theorem ofJson?_toJson (level : Nat) (p : NamePart) : ofJson? level p.toJson = some p := by
  have hobject : p.toJson = .object ([("value", .string p.value), ("type", .string p.kind.text)] ++
      p.validity.members) := rfl
  have hdays : ∀ m ∈ p.validity.members, m.1 ∉ own := by
    intro m hm
    have hdisjoint : ∀ name ∈ ValidityWindow.names, name ∉ own := by decide
    exact hdisjoint m.1 (ValidityWindow.mem_members hm).1
  have hkept : p.validity.members.mapM (fun m => m.2.kept? level) =
      some (p.validity.members.map (·.2)) := by
    refine mapM_eq_some_map fun m hm => ?_
    obtain ⟨-, date, hdate⟩ := ValidityWindow.mem_members hm
    rw [hdate]
    rfl
  rw [ofJson?, hobject, Json.asMembers?]
  simp only [Option.bind_eq_bind, Option.bind_some]
  rw [Json.namedRecord?_append hdays, Json.namedRecord?_eq, Json.others_append, hkept]
  · simp [Json.Record.required, Json.asText?, Json.asCase?, p.validity.ofMembers?_members]
  · simp [own]
  · exact hdays
  · exact List.Sublist.refl own
  · decide

private theorem isExact_toJson (p : NamePart) : p.toJson.isExact = true := by
  simp [toJson, Json.isExact, Json.membersExact, p.validity.membersExact_members]

end NamePart

namespace CredentialSubject

private theorem ofJson?_toJson (level : Nat) (s : CredentialSubject) :
    ofJson? level s.toJson = some s := by
  have hparts (level : Nat) : (s.nameParts.map NamePart.toJson).mapM (NamePart.ofJson? level) =
      some s.nameParts := mapM_map_eq_some fun p _ => p.ofJson?_toJson level
  have hname : name? (level + 1)
      (.object [("nameParts", .array (s.nameParts.map NamePart.toJson))]) = some s.nameParts := by
    rw [name?, Json.record?, Json.namedRecord?_eq]
    · simp [Json.Record.required, Json.asItems?, hparts]
    · exact List.Sublist.refl _
    · decide
  rw [ofJson?, toJson, Json.record?, Json.namedRecord?_eq]
  · simp [Json.Record.required, Json.asText?, hname, s.dcsResponse.ofJson?_toJson]
  · exact List.Sublist.refl _
  · decide

private theorem isExact_toJson (s : CredentialSubject) : s.toJson.isExact = true := by
  have hparts := Json.itemsExact_map NamePart.isExact_toJson s.nameParts
  simp [toJson, Json.isExact, Json.membersExact, hparts, s.dcsResponse.isExact_toJson]

end CredentialSubject

namespace Credential

private theorem ofJson?_toJson (level : Nat) (c : Credential) :
    ofJson? level c.toJson = some c := by
  rw [ofJson?, toJson, Json.record?, Json.namedRecord?_eq]
  · simp [Json.Record.required, Json.asText?, CredentialSubject.ofJson?_toJson,
      Evidence.ofJson?_toJson]
  · exact List.Sublist.refl _
  · decide

private theorem isExact_toJson (c : Credential) : c.toJson.isExact = true := by
  simp [toJson, Json.isExact, Json.membersExact, c.subject.isExact_toJson,
    c.evidence.isExact_toJson]

end Credential

namespace CredentialClaims

/-- The claims of a credential are read back from their document. -/
theorem ofJson?_toJson (c : CredentialClaims) : ofJson? c.toJson = some c := by
  rw [ofJson?, toJson, Json.record?, Json.namedRecord?_eq]
  · simp [Json.Record.required, Json.asText?, Credential.ofJson?_toJson]
  · exact List.Sublist.refl _
  · decide

theorem isExact_toJson (c : CredentialClaims) : c.toJson.isExact = true := by
  simp [toJson, Json.isExact, Json.membersExact, c.vc.isExact_toJson]

end CredentialClaims

section Documents

def NamePart.document (p : NamePart) : Json :=
  .object ([("value", .string p.value),
      ("type", .string
        (match p.kind with
          | .givenName => "GivenName"
          | .familyName => "FamilyName"))]
    ++ (p.validity.validFrom.map fun day => ("validFrom", Json.string day.print)).toList
    ++ (p.validity.validUntil.map fun day => ("validUntil", Json.string day.print)).toList)

def DcsResponse.document (d : DcsResponse) : Json :=
  .object ([("correlationId", .string d.correlationId.print),
      ("requestId", .string d.requestId.print), ("error", .bool d.error), ("valid", .bool d.valid)]
    ++ (d.errorMessage.map fun texts => ("errorMessage", Json.array (texts.map .string))).toList)

/-- All that a signed credential says: its subject, and of the passport holder the names, the
passport, the answer of the checking service and the scores, under the id of the check. -/
def CredentialClaims.document (c : CredentialClaims) : Json :=
  .object [("sub", .string c.sub),
    ("vc", .object [("resourceId", .string c.vc.resourceId),
      ("credentialSubject", .object [
        ("name", .object [("nameParts", .array (c.vc.subject.nameParts.map NamePart.document))]),
        ("passportNumber", .string c.vc.subject.passportNumber),
        ("birthDate", .string c.vc.subject.birthDate.print),
        ("expiryDate", .string c.vc.subject.expiryDate.print),
        ("requestId", .string c.vc.subject.requestId.print),
        ("correlationId", .string c.vc.subject.correlationId.print),
        ("dcsResponse", c.vc.subject.dcsResponse.document)]),
      ("evidence", .object [("gpg45Evidence", .object [
        ("strength", .ofNat c.vc.evidence.strength.toNat),
        ("validity", .ofNat c.vc.evidence.validity.toNat)])])])]

private theorem NamePart.toJson_eq_document (p : NamePart) : p.toJson = p.document := by
  obtain ⟨value, kind, validFrom, validUntil⟩ := p
  cases kind <;> cases validFrom <;> cases validUntil <;> rfl

private theorem DcsResponse.toJson_eq_document (d : DcsResponse) : d.toJson = d.document := by
  obtain ⟨correlationId, requestId, error, valid, errorMessage⟩ := d
  cases errorMessage <;> rfl

/-- Claims are written as the document that is spelled out above. -/
theorem CredentialClaims.toJson_eq_document (c : CredentialClaims) : c.toJson = c.document := by
  have hparts : c.vc.subject.nameParts.map NamePart.toJson =
      c.vc.subject.nameParts.map NamePart.document :=
    List.map_congr_left fun p _ => p.toJson_eq_document
  simp only [toJson, document, Credential.toJson, CredentialSubject.toJson, Evidence.toJson, hparts,
    DcsResponse.toJson_eq_document, Json.ofDate, Json.ofUuid]

end Documents

end CredentialIssuer
