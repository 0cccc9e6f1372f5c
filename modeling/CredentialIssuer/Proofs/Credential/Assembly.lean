import CredentialIssuer.Credential.Assembly
import CredentialIssuer.Proofs.Result

/-! A credential is assembled from complete records only, and says all that its record says. -/
namespace CredentialIssuer.IdentityCheck

section Requirements

def given {α : Type} (check : IdentityCheck) (part : PassportAttributes → Option α) : Option α :=
  check.attributes.bind part

/-- What has to be there, in the order in which it is asked for. The order is not that of the
record, and forenames that are no more than an empty list are not there. -/
def requirements (check : IdentityCheck) : List (Prop × ServiceError) :=
  [(check.attributes ≠ none, .credentialAssembly "attributes"),
    (check.score ≠ none, .credentialAssembly "gpg45Score"),
    (∃ forenames ≠ [], check.given (·.forenames) = some forenames,
      .credentialAssembly "attributes.forenames"),
    (check.given (·.surname) ≠ none, .credentialAssembly "attributes.surname"),
    (check.given (·.passportNumber) ≠ none, .credentialAssembly "attributes.passportNumber"),
    (check.given (·.dateOfBirth) ≠ none, .credentialAssembly "attributes.dateOfBirth"),
    (check.given (·.expiryDate) ≠ none, .credentialAssembly "attributes.expiryDate"),
    (check.given (·.requestId) ≠ none, .credentialAssembly "attributes.requestId"),
    (check.given (·.correlationId) ≠ none, .credentialAssembly "attributes.correlationId"),
    (check.given (·.dcsResponse) ≠ none, .credentialAssembly "attributes.dcsResponse")]

end Requirements

/-- The record that a credential says, for names and a window of theirs. -/
def saying (vc : Credential) (forenames : List String) (surname : String)
    (validity : Option ValidityWindow) : IdentityCheck where
  resourceId := vc.resourceId
  attributes := some {
    passportNumber := some vc.subject.passportNumber
    surname := some surname
    forenames := some forenames
    dateOfBirth := some vc.subject.birthDate
    expiryDate := some vc.subject.expiryDate
    requestId := some vc.subject.requestId
    correlationId := some vc.subject.correlationId
    dcsResponse := some vc.subject.dcsResponse
    nameValidity := validity }
  score := some vc.evidence

/-- The names of a credential are those of the record, forenames first, each with the window of the
record or an open one, and all else stands there as it does in the record. -/
def Transcribes (check : IdentityCheck) (vc : Credential) : Prop :=
  ∃ forenames surname validity, forenames ≠ [] ∧
    vc.subject.nameParts =
      forenames.map (⟨·, .givenName, validity.getD ⟨none, none⟩⟩) ++
        [⟨surname, .familyName, validity.getD ⟨none, none⟩⟩] ∧
    check = saying vc forenames surname validity

def windowed (check : IdentityCheck) : IdentityCheck :=
  { check with attributes := check.attributes.map fun a =>
      { a with nameValidity := some (a.nameValidity.getD .openEnded) } }

section Steps

variable {α β : Type} {Result : β → Prop} {rest : List (Prop × ServiceError)}

private theorem tells_requiredPart {field : String} {part : Option α}
    {next : α → Except ServiceError β} (h : ∀ a, part = some a → Tells (next a) rest Result) :
    Tells (requiredPart field part >>= next) ((part ≠ none, .credentialAssembly field) :: rest)
      Result := by
  cases part with
  | none => exact .cons (fun _ => rfl) fun hne => absurd rfl hne
  | some a => exact .cons (fun hnone => absurd nofun hnone) fun _ => h a rfl

private theorem tells_someForenames {part : Option (List String)}
    {next : List String → Except ServiceError β}
    (h : ∀ forenames, forenames ≠ [] → part = some forenames → Tells (next forenames) rest Result) :
    Tells (someForenames part >>= next)
      ((∃ forenames ≠ [], part = some forenames, .credentialAssembly "attributes.forenames")
        :: rest)
      Result := by
  match part with
  | none => exact .cons (fun _ => rfl) nofun
  | some [] =>
    exact .cons (fun _ => rfl) fun ⟨_, hne, hnil⟩ => absurd (Option.some.inj hnil).symm hne
  | some (first :: others) =>
    have hne : first :: others ≠ [] := List.cons_ne_nil first others
    exact .cons (fun hnone => absurd ⟨_, hne, rfl⟩ hnone) fun _ => h _ hne rfl

end Steps

/-- What assembly comes to: a transcription, or the first part that is missing. -/
theorem assemble_tells (check : IdentityCheck) :
    Tells check.assemble check.requirements check.Transcribes := by
  obtain ⟨resourceId, attributes, score⟩ := check
  refine tells_requiredPart fun a ha => ?_
  obtain rfl : attributes = some a := ha
  refine tells_requiredPart fun evidence hevidence => ?_
  refine tells_someForenames fun forenames hne hforenames => ?_
  refine tells_requiredPart fun surname hsurname => ?_
  refine tells_requiredPart fun passportNumber hpassportNumber => ?_
  refine tells_requiredPart fun birthDate hbirthDate => ?_
  refine tells_requiredPart fun expiryDate hexpiryDate => ?_
  refine tells_requiredPart fun requestId hrequestId => ?_
  refine tells_requiredPart fun correlationId hcorrelationId => ?_
  refine tells_requiredPart fun dcsResponse hdcsResponse => ?_
  refine .nil rfl ⟨forenames, surname, a.nameValidity, hne, rfl, ?_⟩
  simp only [saying, ← hevidence, ← hforenames, ← hsurname, ← hpassportNumber, ← hbirthDate,
    ← hexpiryDate, ← hrequestId, ← hcorrelationId, ← hdcsResponse]

/-- Assembly gives the transcriptions of a record and nothing else. -/
theorem assemble_eq_ok_iff {check : IdentityCheck} {vc : Credential} :
    check.assemble = .ok vc ↔ check.Transcribes vc := by
  constructor
  · intro h
    exact ((assemble_tells check).ok vc h).1
  · rintro ⟨forenames, surname, validity, hne, hparts, rfl⟩
    obtain ⟨resourceId, subject, evidence⟩ := vc
    obtain ⟨first, others, rfl⟩ := List.exists_cons_of_ne_nil hne
    obtain ⟨parts, passportNumber, birthDate, expiryDate, requestId, correlationId, dcsResponse⟩ :=
      subject
    obtain rfl : parts = _ := hparts
    rfl

/-- Something is assembled exactly if all required parts are there. -/
theorem exists_assemble_iff {check : IdentityCheck} :
    (∃ vc, check.assemble = .ok vc) ↔ ∀ r ∈ check.requirements, r.1 := by
  constructor
  · rintro ⟨vc, h⟩
    exact ((assemble_tells check).ok vc h).2
  · exact (assemble_tells check).exists_ok

/-- Names and window are told by the parts that they make up. -/
private theorem eq_of_parts {forenames forenames' : List String} {surname surname' : String}
    {window window' : ValidityWindow}
    (h : forenames.map (NamePart.mk · .givenName window) ++ [⟨surname, .familyName, window⟩] =
      forenames'.map (NamePart.mk · .givenName window') ++ [⟨surname', .familyName, window'⟩]) :
    forenames = forenames' ∧ surname = surname' ∧ window = window' := by
  obtain ⟨hforenames, hlast⟩ := List.append_inj' h rfl
  obtain ⟨hlast, -⟩ := List.cons.inj hlast
  obtain ⟨hsurname, -, hwindow⟩ := NamePart.mk.inj hlast
  subst hwindow
  refine ⟨(List.map_inj_right ?_).mp hforenames, hsurname, rfl⟩
  exact fun name name' hname => (NamePart.mk.inj hname).1

private theorem Transcribes.windowed_eq {check other : IdentityCheck} {vc : Credential}
    (h : check.Transcribes vc) (h' : other.Transcribes vc) : check.windowed = other.windowed := by
  obtain ⟨forenames, surname, validity, -, hparts, rfl⟩ := h
  obtain ⟨forenames', surname', validity', -, hparts', rfl⟩ := h'
  obtain ⟨rfl, rfl, hwindow⟩ := eq_of_parts (hparts.symm.trans hparts')
  simp only [windowed, saying, ValidityWindow.openEnded, Option.map_some, hwindow]

/-- A record is assembled exactly if it has all that is required, and else the first part that it
lacks is named. What comes out is the record put down as a credential, so that records of one
credential differ at most in that one has no window for its names where the other has an open
one. -/
theorem assemble_keeps_record (check : IdentityCheck) :
    ((∃ vc, check.assemble = .ok vc) ↔ ∀ r ∈ check.requirements, r.1) ∧
      (∀ error, check.assemble = .error error ↔ FirstFails check.requirements error) ∧
      (∀ vc, check.assemble = .ok vc ↔ check.Transcribes vc) ∧
      ∀ (other : IdentityCheck) vc, check.assemble = .ok vc → other.assemble = .ok vc →
        check.windowed = other.windowed := by
  refine ⟨exists_assemble_iff, (assemble_tells check).error_iff, fun _ => assemble_eq_ok_iff, ?_⟩
  intro other vc h h'
  exact (assemble_eq_ok_iff.mp h).windowed_eq (assemble_eq_ok_iff.mp h')

end CredentialIssuer.IdentityCheck
