import CredentialIssuer.Proofs.IdentityCheck
import CredentialIssuer.Proofs.Json.Reader
import CredentialIssuer.Proofs.Json.Revision

/-! Stored checks survive being written, and changes to what is written that nothing depends on. -/
namespace CredentialIssuer

open Json (Keeps)

/-- Only the messages may be missing. -/
def DcsResponse.Revised : Json → Json → Prop :=
  Json.Revised ["correlationId", "requestId", "error", "valid", "errorMessage"] ["errorMessage"] []

private theorem DcsResponse.keeps : Keeps ofJson? Revised := by
  refine Json.Revised.keeps (by decide) ?_
  intro r r' d hfield hd
  simp only [List.forall_mem_cons] at hfield
  obtain ⟨hcorrelationId, hrequestId, herror, hvalid, herrorMessage, -⟩ := hfield
  simp only [Option.bind_eq_bind, Option.bind_eq_some_iff] at hd ⊢
  obtain ⟨_, hc, _, hq, _, he, _, hv, _, hm, heq⟩ := hd
  exact ⟨_, hcorrelationId.required (by decide) (by simp) hc,
    _, hrequestId.required (by decide) (by simp) hq, _, herror.required (by decide) (by simp) he,
    _, hvalid.required (by decide) (by simp) hv, _, herrorMessage.lenient (by simp) hm, heq⟩

def ValidityWindow.Revised : Json → Json → Prop := Json.Revised names names []

private theorem ValidityWindow.keeps : Keeps ofJson? Revised := by
  refine Json.Revised.keeps (by decide) ?_
  intro r r' w hfield hw
  simp only [names, List.forall_mem_cons] at hfield
  obtain ⟨hfrom, huntil, -⟩ := hfield
  simp only [Option.bind_eq_bind, Option.bind_eq_some_iff] at hw ⊢
  obtain ⟨_, hf, _, hu, heq⟩ := hw
  exact ⟨_, hfrom.lenient (by simp) hf, _, huntil.lenient (by simp) hu, heq⟩

namespace Evidence

/-- Neither score may be missing. -/
def InnerRevised : Json → Json → Prop := Json.Revised ["strength", "validity"] [] []

def Revised : Json → Json → Prop :=
  Json.Revised ["gpg45Evidence"] [] [("gpg45Evidence", InnerRevised)]

private theorem keeps_inner : Keeps inner? InnerRevised := by
  refine Json.Revised.keeps (by decide) ?_
  intro r r' e hfield he
  simp only [List.forall_mem_cons] at hfield
  obtain ⟨hstrength, hvalidity, -⟩ := hfield
  simp only [Option.bind_eq_bind, Option.bind_eq_some_iff] at he ⊢
  obtain ⟨_, hs, _, hv, heq⟩ := he
  exact ⟨_, hstrength.required (by simp) (by simp) hs, _, hvalidity.required (by simp) (by simp) hv,
    heq⟩

private theorem keeps : Keeps ofJson? Revised := by
  refine Json.Revised.keeps (by decide) ?_
  intro r r' e hfield he
  exact (hfield "gpg45Evidence" (by simp)).required (by simp) (by simpa using keeps_inner) he

end Evidence

/-- Anything may be missing. -/
def PassportAttributes.Revised : Json → Json → Prop :=
  Json.Revised names names
    [("dcsResponse", DcsResponse.Revised), ("nameValidity", ValidityWindow.Revised)]

private theorem PassportAttributes.keeps : Keeps ofJson? Revised := by
  refine Json.Revised.keeps (by decide) ?_
  intro r r' a hfield ha
  have hplain {α : Type} {decode : Json → Option α} {name : String} {given : Option α}
      (hname : name ∈ names ∧ name ≠ "dcsResponse" ∧ name ≠ "nameValidity")
      (h : r.lenient name decode = some given) : r'.lenient name decode = some given :=
    (hfield name hname.1).lenient (by simp [hname.2]) h
  simp only [Option.bind_eq_bind, Option.bind_eq_some_iff] at ha ⊢
  obtain ⟨_, hn, _, hs, _, hf, _, hb, _, he, _, hq, _, hc, _, hd, _, hw, heq⟩ := ha
  have hresponse := (hfield "dcsResponse" (by decide)).lenient (by simpa using DcsResponse.keeps) hd
  have hwindow :=
    (hfield "nameValidity" (by decide)).lenient (by simpa using ValidityWindow.keeps) hw
  exact ⟨_, hplain (by decide) hn, _, hplain (by decide) hs, _, hplain (by decide) hf,
    _, hplain (by decide) hb, _, hplain (by decide) he, _, hplain (by decide) hq,
    _, hplain (by decide) hc, _, hresponse, _, hwindow, heq⟩

namespace IdentityCheck

/-- All but the resource may be missing. -/
def Revised : Json → Json → Prop :=
  Json.Revised ["resourceId", "attributes", "gpg45Score"] ["attributes", "gpg45Score"]
    [("attributes", PassportAttributes.Revised), ("gpg45Score", Evidence.Revised)]

private theorem keeps : Keeps ofJson? Revised := by
  refine Json.Revised.keeps (by decide) ?_
  intro r r' check hfield hcheck
  simp only [List.forall_mem_cons] at hfield
  obtain ⟨hresourceId, hattributes, hscore, -⟩ := hfield
  simp only [Option.bind_eq_bind, Option.bind_eq_some_iff] at hcheck ⊢
  obtain ⟨_, hid, _, ha, _, hs, heq⟩ := hcheck
  refine ⟨_, hresourceId.required (by decide) (by simp) hid, _, hattributes.lenient ?_ ha,
    _, hscore.lenient ?_ hs, heq⟩
  · simpa using PassportAttributes.keeps
  · simpa using Evidence.keeps

def stored? (bytes : Bytes) : Option IdentityCheck := (Json.readBytes? bytes).bind ofJson?

private theorem stored?_encode_print (check : IdentityCheck) :
    stored? (Utf8.encode check.toJson.print) = some check := by
  rw [stored?, Json.readBytes?_encode_print check.isExact_toJson, Option.bind_some, ofJson?_toJson]

/-- A check is read back from what is written of it, so that no two checks are written alike, and an
empty list or window is told from one that is missing. Whatever a check is read from, it is still
read from it when null members of optional fields are left out and members of other names are put
in, in the record itself and in the records that it holds. -/
theorem stored_check_survives (check : IdentityCheck) :
    stored? (Utf8.encode check.toJson.print) = some check ∧
      (∀ other : IdentityCheck, other.toJson.print = check.toJson.print → other = check) ∧
      ∀ value value', ofJson? value = some check →
        Relation.ReflTransGen Revised value value' → ofJson? value' = some check := by
  refine ⟨stored?_encode_print check, ?_, fun _ _ hread h => keeps.run h hread⟩
  intro other h
  have hother := stored?_encode_print other
  rw [h, stored?_encode_print] at hother
  exact (Option.some.inj hother).symm

end IdentityCheck

end CredentialIssuer
