import CredentialIssuer.Proofs.Settings.Path
import CredentialIssuer.Settings.Application

/-! What is read of settings of which one has been changed: that one as it is now, and all others as
they were. -/
namespace CredentialIssuer.Settings

open Settings.Path

section Field

variable {α : Type} {name : String} {entries old : Tree.Entries} {value : Tree} {default a : α}
  {decode : Tree → Option α}

private theorem field_of_lookup (h : entries.lookup name = some value) :
    Reading.field entries name default decode = decode value := by
  rw [Reading.field, h]

private theorem field_congr (h : entries.lookup name = old.lookup name) :
    Reading.field entries name default decode = Reading.field old name default decode := by
  rw [Reading.field, h, Reading.field]

/-- A section that is left out is one without entries. -/
structure IsSection (default : α) (decode : Tree → Option α) : Prop where
  empty : decode (.table []) = some default
  shape : ∀ {value a}, decode value = some a →
    (∃ inner, value = .table inner) ∨ ∃ items, value = .list items

/-- A section is read the same way where it stands and where it is left out. -/
theorem IsSection.of_field (h : IsSection default decode)
    (hname : ∀ items, entryOf (.table entries) name ≠ .list items)
    (hfield : Reading.field entries name default decode = some a) :
    decode (.table (entriesOf (entryOf (.table entries) name))) = some a := by
  rw [Reading.field] at hfield
  cases hlookup : entries.lookup name with
  | none =>
    rw [hlookup] at hfield
    have hentry : entryOf (.table entries) name = .nil := by
      rw [entryOf, entriesOf, hlookup, Option.getD_none]
    rw [hentry]
    exact h.empty.trans hfield
  | some value =>
    rw [hlookup] at hfield
    have hentry : entryOf (.table entries) name = value := by
      rw [entryOf, entriesOf, hlookup, Option.getD_some]
    rw [hentry] at hname ⊢
    rcases h.shape hfield with ⟨inner, rfl⟩ | ⟨items, rfl⟩
    · exact hfield
    · exact absurd rfl (hname items)

end Field

section Read

variable {entries old : Tree.Entries} {value : Tree} {text : String}

/-- The settings for signing are read field by field. -/
theorem SigningSettings.read?_eq_some_iff {s : SigningSettings} :
    read? Tree.reading (.table entries) = some s ↔
      Reading.field entries "signing_key_path" none (optionalText? Tree.reading) = some s.keyPath ∧
      Reading.field entries "kid" none (optionalText? Tree.reading) = some s.kid := by
  obtain ⟨keyPath, kid⟩ := s
  simp [read?, Tree.reading, Tree.given?, Option.bind_eq_some_iff]

/-- The settings of the issuer are read field by field. -/
theorem IssuerSettings.read?_eq_some_iff {s : IssuerSettings} :
    read? Tree.reading (.table entries) = some s ↔
      Reading.field entries "audience" default.audience Tree.reading.text? = some s.audience ∧
      Reading.field entries "jar" default.requests (RequestSettings.read? Tree.reading) =
        some s.requests ∧
      Reading.field entries "auth_code" default.codes (CodeSettings.read? Tree.reading) =
        some s.codes ∧
      Reading.field entries "credential" default.signing (SigningSettings.read? Tree.reading) =
        some s.signing ∧
      Reading.field entries "clients" default.clients (clients? Tree.reading) = some s.clients := by
  obtain ⟨audience, requests, codes, signing, clients⟩ := s
  simp [read?, Tree.reading, Tree.given?, Option.bind_eq_some_iff]

/-- The settings of the server are read field by field. -/
theorem AppSettings.read?_eq_some_iff {s : AppSettings} :
    read? Tree.reading (.table entries) = some s ↔
      Reading.field entries "server" (default.host, default.port) (server? Tree.reading) =
        some (s.host, s.port) ∧
      Reading.field entries "logging" default.logLevel (logging? Tree.reading) = some s.logLevel ∧
      Reading.field entries "issuer" default.issuer (IssuerSettings.read? Tree.reading) =
        some s.issuer := by
  obtain ⟨host, port, logLevel, issuer⟩ := s
  simp [read?, Tree.reading, Tree.given?, Option.bind_eq_some_iff]

private theorem given?_shape {names : List String} {value : Tree} {given : Tree.Entries}
    (h : Tree.given? names value = some given) :
    (∃ inner, value = .table inner) ∨ ∃ items, value = .list items := by
  cases value with
  | table inner => exact .inl ⟨inner, rfl⟩
  | list items => exact .inr ⟨items, rfl⟩
  | _ => cases h

theorem SigningSettings.isSection :
    IsSection IssuerSettings.default.signing (SigningSettings.read? Tree.reading) where
  empty := rfl
  shape h := by
    obtain ⟨given, hgiven, -⟩ := Option.bind_eq_some_iff.mp h
    exact given?_shape hgiven

theorem IssuerSettings.isSection :
    IsSection AppSettings.default.issuer (IssuerSettings.read? Tree.reading) where
  empty := rfl
  shape h := by
    obtain ⟨given, hgiven, -⟩ := Option.bind_eq_some_iff.mp h
    exact given?_shape hgiven

private theorem optionalText?_of_asText? (h : value.asText? = some text) :
    optionalText? Tree.reading value = some (some text) := by
  have hgiven : value.isNil = false := by
    cases value with
    | nil => cases h
    | _ => rfl
  simp [optionalText?, Reading.optional, Tree.reading, hgiven, h]

/-- Another name for the key changes no other field. -/
theorem SigningSettings.read?_of_kid {s : SigningSettings}
    (h : read? Tree.reading (.table old) = some s)
    (hothers : ∀ other ≠ "kid", entries.lookup other = old.lookup other)
    (hfound : entries.lookup "kid" = some value) (htext : value.asText? = some text) :
    read? Tree.reading (.table entries) = some { s with kid := some text } := by
  obtain ⟨hpath, -⟩ := read?_eq_some_iff.mp h
  refine read?_eq_some_iff.mpr ⟨?_, ?_⟩
  · rw [field_congr (hothers _ (by decide)), hpath]
  · rw [field_of_lookup hfound, optionalText?_of_asText? htext]

/-- Another audience changes no other field. -/
theorem IssuerSettings.read?_of_audience {s : IssuerSettings}
    (h : read? Tree.reading (.table old) = some s)
    (hothers : ∀ other ≠ "audience", entries.lookup other = old.lookup other)
    (hfound : entries.lookup "audience" = some value) (htext : value.asText? = some text) :
    read? Tree.reading (.table entries) = some { s with audience := text } := by
  obtain ⟨-, hrequests, hcodes, hsigning, hclients⟩ := read?_eq_some_iff.mp h
  refine read?_eq_some_iff.mpr ⟨?_, ?_, ?_, ?_, ?_⟩
  · rw [field_of_lookup hfound]
    exact htext
  · rw [field_congr (hothers _ (by decide)), hrequests]
  · rw [field_congr (hothers _ (by decide)), hcodes]
  · rw [field_congr (hothers _ (by decide)), hsigning]
  · rw [field_congr (hothers _ (by decide)), hclients]

/-- Other settings for signing change no other field of the issuer. -/
theorem IssuerSettings.read?_of_credential {s : IssuerSettings} {signing : SigningSettings}
    (h : read? Tree.reading (.table old) = some s)
    (hothers : ∀ other ≠ "credential", entries.lookup other = old.lookup other)
    (hfound : entries.lookup "credential" = some value)
    (hsigning : SigningSettings.read? Tree.reading value = some signing) :
    read? Tree.reading (.table entries) = some { s with signing := signing } := by
  obtain ⟨haudience, hrequests, hcodes, -, hclients⟩ := read?_eq_some_iff.mp h
  refine read?_eq_some_iff.mpr ⟨?_, ?_, ?_, ?_, ?_⟩
  · rw [field_congr (hothers _ (by decide)), haudience]
  · rw [field_congr (hothers _ (by decide)), hrequests]
  · rw [field_congr (hothers _ (by decide)), hcodes]
  · rw [field_of_lookup hfound, hsigning]
  · rw [field_congr (hothers _ (by decide)), hclients]

/-- Other settings of the issuer change no other field of the server. -/
theorem AppSettings.read?_of_issuer {s : AppSettings} {issuer : IssuerSettings}
    (h : read? Tree.reading (.table old) = some s)
    (hothers : ∀ other ≠ "issuer", entries.lookup other = old.lookup other)
    (hfound : entries.lookup "issuer" = some value)
    (hissuer : IssuerSettings.read? Tree.reading value = some issuer) :
    read? Tree.reading (.table entries) = some { s with issuer := issuer } := by
  obtain ⟨hserver, hlogging, -⟩ := read?_eq_some_iff.mp h
  refine read?_eq_some_iff.mpr ⟨?_, ?_, ?_⟩
  · rw [field_congr (hothers _ (by decide)), hserver]
  · rw [field_congr (hothers _ (by decide)), hlogging]
  · rw [field_of_lookup hfound, hissuer]

end Read

end CredentialIssuer.Settings
