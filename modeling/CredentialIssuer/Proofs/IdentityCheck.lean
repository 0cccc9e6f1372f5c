import CredentialIssuer.IdentityCheck
import CredentialIssuer.Proofs.Json.Record
import CredentialIssuer.Proofs.Json.Token
import CredentialIssuer.Proofs.Result
import CredentialIssuer.Proofs.Time.Date
import CredentialIssuer.Proofs.Uuid

/-! Identity checks and their parts are written exactly, and are read back from what is written. -/
namespace CredentialIssuer

namespace Json

@[simp] theorem asDate?_ofDate (date : Date) : (ofDate date).asDate? = some date := by
  rw [asDate?, ofDate, asText?, Option.bind_some, Date.read?_print]

@[simp] theorem asUuid?_ofUuid (id : Uuid) : (ofUuid id).asUuid? = some id := by
  rw [asUuid?, ofUuid, asText?, Option.bind_some, Uuid.read?_print]

@[simp] theorem asTexts?_ofTexts (texts : List String) : (ofTexts texts).asTexts? = some texts := by
  have hread (text : String) : (Json.string text).asText? = some text := rfl
  rw [asTexts?, ofTexts, asItems?, Option.bind_some, mapM_map_eq_some fun text _ => hread text]

private theorem readsBack_text : Record.ReadsBack .string asText? := ⟨fun _ => rfl, fun _ => nofun⟩

private theorem readsBack_texts : Record.ReadsBack ofTexts asTexts? :=
    ⟨asTexts?_ofTexts, fun _ => nofun⟩

private theorem readsBack_date : Record.ReadsBack ofDate asDate? := ⟨asDate?_ofDate, fun _ => nofun⟩

private theorem readsBack_uuid : Record.ReadsBack ofUuid asUuid? := ⟨asUuid?_ofUuid, fun _ => nofun⟩

private theorem isExact_string (text : String) : (string text).isExact = true := rfl

@[simp] theorem isExact_ofDate (date : Date) : (ofDate date).isExact = true := rfl

@[simp] theorem isExact_ofUuid (id : Uuid) : (ofUuid id).isExact = true := rfl

/-- A list of values that are written exactly is written exactly. -/
theorem itemsExact_map {α : Type} {encode : α → Json} (h : ∀ a, (encode a).isExact = true)
    (l : List α) : itemsExact (l.map encode) = true := by
  induction l with
  | nil => rfl
  | cons a l ih => rw [List.map_cons, itemsExact, h a, ih, Bool.true_and]

@[simp] theorem isExact_ofTexts (texts : List String) : (ofTexts texts).isExact = true :=
  itemsExact_map (fun _ => rfl) texts

@[simp] theorem membersExact_append (a b : Members) :
    membersExact (a ++ b) = (membersExact a && membersExact b) := by
  induction a with
  | nil => rfl
  | cons m a ih => rw [List.cons_append, membersExact, membersExact, ih, Bool.and_assoc]

/-- An optional member is exact if its value is. -/
theorem membersExact_member? {α : Type} (name : String) {encode : α → Json}
    (h : ∀ a, (encode a).isExact = true) (value : Option α) :
    membersExact (member? name encode value) = true := by
  cases value with
  | none => rfl
  | some a => rw [member?, membersExact, h a, membersExact, Bool.and_true]

private theorem isExact_orNull {α : Type} {encode : α → Json} (h : ∀ a, (encode a).isExact = true)
    (value : Option α) : (orNull encode value).isExact = true := by
  cases value with
  | none => rfl
  | some a => exact h a

end Json

namespace DcsResponse

/-- The answer of the checking service is read back. -/
theorem ofJson?_toJson (d : DcsResponse) : ofJson? d.toJson = some d := by
  rw [ofJson?, toJson, Json.record?, Json.namedRecord?_eq]
  · have hmessage {r : Json.Record}
        (h : r.field? "errorMessage" = d.errorMessage.map Json.ofTexts) :=
      Json.readsBack_texts.lenient h
    simp [Json.Record.required, Json.asBool?, hmessage]
  · exact Json.names_member?_sublist.append_left ["correlationId", "requestId", "error", "valid"]
  · decide

theorem isExact_toJson (d : DcsResponse) : d.toJson.isExact = true := by
  have hmessage := Json.membersExact_member? "errorMessage" Json.isExact_ofTexts d.errorMessage
  simp [toJson, Json.isExact, Json.membersExact, hmessage]

end DcsResponse

namespace ValidityWindow

private theorem names_members_sublist (w : ValidityWindow) :
    (w.members.map (·.1)).Sublist names := by
  rw [members, List.map_append]
  exact Json.names_member?_sublist.append Json.names_member?_sublist

theorem mem_members {w : ValidityWindow} {m : String × Json} (h : m ∈ w.members) :
    m.1 ∈ names ∧ ∃ date, m.2 = Json.ofDate date := by
  rcases List.mem_append.mp h with h | h
  · obtain ⟨date, -, rfl⟩ := Json.mem_member?_iff.mp h
    exact ⟨by simp [names], date, rfl⟩
  · obtain ⟨date, -, rfl⟩ := Json.mem_member?_iff.mp h
    exact ⟨by simp [names], date, rfl⟩

/-- A window is read back from its members. -/
theorem ofMembers?_members (w : ValidityWindow) : ofMembers? w.members = some w := by
  have hday {r : Json.Record} {name : String} {day : Option Date}
      (h : r.field? name = day.map Json.ofDate) :=
    Json.Record.withDefault_eq_some Json.asDate?_ofDate h
  rw [ofMembers?, Json.namedRecord?_eq w.names_members_sublist (by decide)]
  simp only [Option.bind_eq_bind, Option.bind_some]
  rw [hday, Option.bind_some, hday, Option.bind_some]
  · simp [members]
  · simp [members]

private theorem ofJson?_members (w : ValidityWindow) : ofJson? (.object w.members) = some w := by
  have hday {r : Json.Record} {name : String} {day : Option Date}
      (h : r.field? name = day.map Json.ofDate) :=
    Json.readsBack_date.lenient h
  rw [ofJson?, Json.record?, Json.namedRecord?_eq w.names_members_sublist (by decide)]
  simp only [Option.bind_eq_bind, Option.bind_some]
  rw [hday, Option.bind_some, hday, Option.bind_some]
  · simp [members]
  · simp [members]

theorem membersExact_members (w : ValidityWindow) : Json.membersExact w.members = true := by
  rw [members, Json.membersExact_append, Json.membersExact_member? _ Json.isExact_ofDate,
    Json.membersExact_member? _ Json.isExact_ofDate, Bool.true_and]

end ValidityWindow

namespace Evidence

private theorem score?_ofNat (score : UInt8) : score? (.ofNat score.toNat) = some score := by
  have hbound : (score.toNat : Int) ≤ 255 := Int.ofNat_le.mpr (Nat.le_of_lt_succ score.toNat_lt)
  simp [score?, Json.ofNat, Json.asInt?, hbound]

theorem ofJson?_toJson (e : Evidence) : ofJson? e.toJson = some e := by
  have hinner : inner? (.object [("strength", .ofNat e.strength.toNat),
      ("validity", .ofNat e.validity.toNat)]) = some e := by
    rw [inner?, Json.record?, Json.namedRecord?_eq]
    · simp [Json.Record.required, score?_ofNat]
    · exact List.Sublist.refl _
    · decide
  rw [ofJson?, toJson, Json.record?, Json.namedRecord?_eq]
  · simp [Json.Record.required, hinner]
  · exact List.Sublist.refl _
  · decide

theorem isExact_toJson (e : Evidence) : e.toJson.isExact = true := by
  have hscore (score : UInt8) : Json.fits score.toNat = true := by
    have hbound := score.toNat_lt
    simp only [Json.fits, Bool.and_eq_true, decide_eq_true_eq]
    simp only [Json.minInt64, Json.maxUInt64]
    omega
  simp [toJson, Json.isExact, Json.membersExact, Json.ofNat, hscore]

end Evidence

namespace PassportAttributes

private theorem ofJson?_toJson (a : PassportAttributes) : ofJson? a.toJson = some a := by
  have hresponse : Json.Record.ReadsBack DcsResponse.toJson DcsResponse.ofJson? :=
    ⟨DcsResponse.ofJson?_toJson, fun _ => nofun⟩
  have hwindow : Json.Record.ReadsBack (fun w => .object (ValidityWindow.members w))
      ValidityWindow.ofJson? :=
    ⟨ValidityWindow.ofJson?_members, fun _ => nofun⟩
  rw [ofJson?, toJson, Json.record?, Json.namedRecord?_eq]
  · simp only [Option.bind_eq_bind, Option.bind_some]
    rw [Json.readsBack_text.lenient_orNull rfl, Option.bind_some,
      Json.readsBack_text.lenient_orNull rfl, Option.bind_some,
      Json.readsBack_texts.lenient_orNull rfl, Option.bind_some,
      Json.readsBack_date.lenient_orNull rfl, Option.bind_some,
      Json.readsBack_date.lenient_orNull rfl, Option.bind_some,
      Json.readsBack_uuid.lenient_orNull rfl, Option.bind_some,
      Json.readsBack_uuid.lenient_orNull rfl, Option.bind_some,
      hresponse.lenient_orNull rfl, Option.bind_some,
      hwindow.lenient_orNull rfl, Option.bind_some]
  · exact List.Sublist.refl _
  · decide

private theorem isExact_toJson (a : PassportAttributes) : a.toJson.isExact = true := by
  have hwindow (w : ValidityWindow) : (Json.object w.members).isExact = true :=
    w.membersExact_members
  simp only [toJson, Json.isExact, Json.membersExact, Json.isExact_orNull Json.isExact_string,
    Json.isExact_orNull Json.isExact_ofTexts, Json.isExact_orNull Json.isExact_ofDate,
    Json.isExact_orNull Json.isExact_ofUuid, Json.isExact_orNull DcsResponse.isExact_toJson,
    Json.isExact_orNull hwindow, Bool.true_and]

end PassportAttributes

namespace IdentityCheck

/-- A whole check is read back, also where parts of it are missing. -/
theorem ofJson?_toJson (c : IdentityCheck) : ofJson? c.toJson = some c := by
  have hattributes : Json.Record.ReadsBack PassportAttributes.toJson PassportAttributes.ofJson? :=
    ⟨PassportAttributes.ofJson?_toJson, fun _ => nofun⟩
  have hscore : Json.Record.ReadsBack Evidence.toJson Evidence.ofJson? :=
    ⟨Evidence.ofJson?_toJson, fun _ => nofun⟩
  rw [ofJson?, toJson, Json.record?, Json.namedRecord?_eq]
  · simp only [Option.bind_eq_bind, Option.bind_some]
    rw [hattributes.lenient_orNull rfl, hscore.lenient_orNull rfl]
    simp [Json.Record.required, Json.asText?]
  · exact List.Sublist.refl _
  · decide

theorem isExact_toJson (c : IdentityCheck) : c.toJson.isExact = true := by
  simp [toJson, Json.isExact, Json.membersExact, Json.isExact_orNull,
    PassportAttributes.isExact_toJson, Evidence.isExact_toJson]

end IdentityCheck

end CredentialIssuer
