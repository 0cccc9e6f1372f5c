import CredentialIssuer.Proofs.Settings.Environment
import CredentialIssuer.Proofs.Settings.Issuer
import CredentialIssuer.Proofs.Settings.Reading
import CredentialIssuer.Settings.Load

/-! What becomes of a setting of text that a variable gives, and that all other settings stay. -/
namespace CredentialIssuer.Settings

open Settings.Path Environment

structure AppSettings.Valid (s : AppSettings) : Prop where
  port : s.port ≠ 0
  logLevel : s.logLevel.toLower ∈ logLevels
  issuer : s.issuer.Valid

/-- The check of a server passes exactly on valid settings. -/
theorem AppSettings.validate_eq_ok_iff {s : AppSettings} : s.validate = .ok () ↔ s.Valid := by
  rw [validate]
  split
  · rename_i hport
    exact iff_of_false nofun fun h => h.port hport
  · rename_i hport
    split
    · rename_i hlevel
      refine iff_of_false nofun fun h => ?_
      simp [h.logLevel] at hlevel
    · rename_i hlevel
      have hmem : s.logLevel.toLower ∈ logLevels := by simpa using hlevel
      cases hissuer : s.issuer.validate with
      | ok _ =>
        exact iff_of_true rfl ⟨hport, hmem, IssuerSettings.validate_eq_ok_iff.mp hissuer⟩
      | error fault =>
        refine iff_of_false nofun fun h => ?_
        rw [IssuerSettings.validate_eq_ok_iff.mpr h.issuer] at hissuer
        cases hissuer

/-- Settings are loaded if they can be read from what was merged and are valid. -/
theorem load_eq_ok_iff {file : FileState} {path : String} {bindings : Bindings}
    {s : AppSettings} :
    load file path bindings = .ok s ↔ ∃ entries, merged? file path bindings = some entries ∧
      AppSettings.read? Tree.reading (.table entries) = some s ∧ s.Valid := by
  cases hmerged : merged? file path bindings with
  | none => simp [load, hmerged]
  | some entries =>
    cases hread : AppSettings.read? Tree.reading (.table entries) with
    | none => simp [load, hmerged, hread]
    | some settings =>
      simp only [load, hmerged, hread, Option.some.injEq, exists_eq_left']
      cases hvalidate : settings.validate with
      | error fault =>
        refine iff_of_false nofun ?_
        rintro ⟨rfl, hvalid⟩
        rw [AppSettings.validate_eq_ok_iff.mpr hvalid] at hvalidate
        cases hvalidate
      | ok _ =>
        have hvalid : settings.Valid := AppSettings.validate_eq_ok_iff.mp hvalidate
        constructor
        · intro h
          obtain rfl := Except.ok.inj h
          exact ⟨rfl, hvalid⟩
        · rintro ⟨rfl, -⟩
          rfl

/-- Settings of text that a variable may give. -/
inductive TextVariable where
  | audience
  | kid
  deriving DecidableEq, Repr

namespace TextVariable

def name : TextVariable → String
  | .audience => "PASSPORT_CRI__ISSUER__AUDIENCE"
  | .kid => "PASSPORT_CRI__ISSUER__CREDENTIAL__KID"

def names : TextVariable → List String
  | .audience => ["issuer", "audience"]
  | .kid => ["issuer", "credential", "kid"]

def put (t : TextVariable) (text : String) (s : AppSettings) : AppSettings :=
  match t with
  | .audience => { s with issuer := { s.issuer with audience := text } }
  | .kid => { s with issuer := { s.issuer with
      signing := { s.issuer.signing with kid := some text } } }

def path (t : TextVariable) : Path := ⟨"issuer", t.names.tail.map .key⟩

private theorem path?_name (t : TextVariable) : Environment.path? t.name = some t.path := by
  cases t <;> decide +kernel

variable {t : TextVariable} {v text : String} {s : AppSettings}

private theorem differsAt_set (t : TextVariable) (v : String) (entries : Tree.Entries) :
    DiffersAt (guess v) t.names (.table (t.path.set (guess v) entries)) (.table entries) := by
  cases t with
  | audience => exact differsAt_changeAt (guess_ne_table v) ["issuer", "audience"] (.table entries)
  | kid =>
    exact differsAt_changeAt (guess_ne_table v) ["issuer", "credential", "kid"] (.table entries)

private theorem valid_put (h : s.Valid) (htext : text ≠ "") : (t.put text s).Valid := by
  obtain ⟨hport, hlevel, hissuer⟩ := h
  cases t with
  | audience => exact ⟨hport, hlevel, { hissuer with audience := htext }⟩
  | kid => exact ⟨hport, hlevel, { hissuer with }⟩

/-- One text more in its place changes one setting. -/
theorem read?_of_differsAt {value : Tree} {entries old : Tree.Entries}
    (hread : AppSettings.read? Tree.reading (.table old) = some s)
    (hnames : isByName t.names (.table old) = true)
    (hdiffers : DiffersAt value t.names (.table entries) (.table old))
    (htext : value.asText? = some text) :
    AppSettings.read? Tree.reading (.table entries) = some (t.put text s) := by
  cases t with
  | audience =>
    obtain _ | ⟨hissuer, hothers, _ | ⟨haudience, hbeside, _ | _⟩⟩ := hdiffers
    have hold := IssuerSettings.isSection.of_field (ne_list_of_isByName (isByName_entryOf hnames))
      (AppSettings.read?_eq_some_iff.mp hread).2.2
    exact AppSettings.read?_of_issuer hread hothers hissuer
      (IssuerSettings.read?_of_audience hold hbeside haudience htext)
  | kid =>
    obtain _ | ⟨hissuer, hothers, _ | ⟨hsection, hbeside, _ | ⟨hkid, hnext, _ | _⟩⟩⟩ := hdiffers
    have hbelow := isByName_entryOf hnames
    have hold := IssuerSettings.isSection.of_field (ne_list_of_isByName hbelow)
      (AppSettings.read?_eq_some_iff.mp hread).2.2
    have hcredential : isByName ["kid"] (entryOf (entryOf (.table old) "issuer") "credential") =
        true := isByName_entryOf hbelow
    have hsigning := SigningSettings.isSection.of_field (ne_list_of_isByName hcredential)
      (IssuerSettings.read?_eq_some_iff.mp hold).2.2.2.1
    exact AppSettings.read?_of_issuer hread hothers hissuer
      (IssuerSettings.read?_of_credential hold hbeside hsection
        (SigningSettings.read?_of_kid hsigning hnext hkid htext))

section Load

variable {file : FileState} {path : String} {bindings changed : Bindings}

/-- The last variables are laid over what the first ones leave. -/
theorem merged?_append (file : FileState) (path : String) (before after : Bindings) :
    merged? file path (before ++ after) = (merged? file path before).map (overlay after) := by
  simp only [merged?, Option.map_map, Function.comp_def, overlay_append]

private theorem merged?_variable (file : FileState) (path : String) (before after : Bindings)
    (t : TextVariable) (v : String) :
    merged? file path (before ++ (t.name, v) :: after) =
      (merged? file path before).map fun entries =>
        overlay after (t.path.set (guess v) entries) := by
  have hoverlay : overlay ((t.name, v) :: after) = fun entries =>
      overlay after (t.path.set (guess v) entries) := funext (overlay_cons t.path?_name v after)
  rw [merged?_append, hoverlay]

private theorem load_of_differsAt {value : Tree} {entries old : Tree.Entries}
    (hload : load file path bindings = .ok s) (hold : merged? file path bindings = some old)
    (hmerged : merged? file path changed = some entries)
    (hnames : isByName t.names (.table old) = true)
    (hdiffers : DiffersAt value t.names (.table entries) (.table old))
    (htext : value.asText? = some text) (hne : text ≠ "") :
    load file path changed = .ok (t.put text s) := by
  obtain ⟨old', hold', hread, hvalid⟩ := load_eq_ok_iff.mp hload
  obtain rfl := Option.some.inj (hold.symm.trans hold')
  exact load_eq_ok_iff.mpr
    ⟨entries, hmerged, read?_of_differsAt hread hnames hdiffers htext, valid_put hvalid hne⟩

/-- A variable that holds a text sets the setting of its name, whatever the file says and whatever
it held before, and no other setting. What is set is the text itself, unless it is a switch or a
numeral: those are written anew. -/
theorem sets_arriving_text (t : TextVariable) (v : String) (hv : v ≠ "") :
    ∃ text, Arrives v text ∧ ∀ file path before after, Apart t.names after →
      (∀ s, load file path (before ++ after) = .ok s →
        (∀ entries, merged? file path (before ++ after) = some entries →
          isByName t.names (.table entries) = true) →
        load file path (before ++ (t.name, v) :: after) = .ok (t.put text s)) ∧
      ∀ w s, load file path (before ++ (t.name, w) :: after) = .ok s →
        load file path (before ++ (t.name, v) :: after) = .ok (t.put text s) := by
  obtain ⟨text, harrives⟩ := exists_arrives v
  have hne : text ≠ "" := harrives.ne_empty hv
  refine ⟨text, harrives, fun file path before after hapart => ⟨?_, ?_⟩⟩
  · intro s hload hnames
    obtain ⟨old, hold, -, -⟩ := load_eq_ok_iff.mp hload
    obtain ⟨base, hbase, rfl⟩ : ∃ base, merged? file path before = some base ∧
        overlay after base = old := by
      rwa [merged?_append, Option.map_eq_some_iff] at hold
    have hmerged := merged?_variable file path before after t v
    rw [hbase, Option.map_some] at hmerged
    exact load_of_differsAt hload hold hmerged (hnames _ hold)
      (differsAt_overlay hapart (differsAt_set t v base)) harrives.asText?_guess hne
  · intro w s hload
    obtain ⟨old, hold, -, -⟩ := load_eq_ok_iff.mp hload
    obtain ⟨base, hbase, rfl⟩ : ∃ base, merged? file path before = some base ∧
        overlay after (t.path.set (guess w) base) = old := by
      rwa [merged?_variable, Option.map_eq_some_iff] at hold
    have hmerged := merged?_variable file path before after t v
    rw [hbase, Option.map_some] at hmerged
    -- Putting `w` there has left tables only on the way, and beside it both trees are like `base`.
    have hnames := (differsAt_overlay hapart (differsAt_set t w base)).isByName
    have hdiffers := (differsAt_set t v base).of_common (differsAt_set t w base)
    exact load_of_differsAt hload hold hmerged hnames (differsAt_overlay hapart hdiffers)
      harrives.asText?_guess hne

end Load

def sampleFile : FileState := .document
  "[issuer.clients.app]\nissuer = \"app\"\nredirect_uris = [\"app:back\"]\n"

/-- A file in which the settings of the issuer stand in the order of its fields, without names. -/
def listedFile : FileState := .document
  "issuer = [\"issuer\", \x7b\x7d, \x7b\x7d, \x7b\x7d,
    \x7b app = \x7b issuer = \"app\", redirect_uris = [\"app:back\"] \x7d \x7d]\n"

def samplePort : Bindings := [("PASSPORT_CRI__SERVER__PORT", "9090")]

private theorem apart_samplePort : Apart audience.names samplePort := by
  intro b hb path hpath
  obtain rfl := List.mem_singleton.mp hb
  have hport : Environment.path? "PASSPORT_CRI__SERVER__PORT" = some ⟨"server", [.key "port"]⟩ := by
    decide +kernel
  obtain rfl := Option.some.inj (hport.symm.trans hpath)
  rfl

/-- The audience `007` arrives as `7`. -/
theorem sets_arriving_text_zeros :
    "007" ≠ "" ∧ Apart audience.names samplePort ∧
      ∃ s, load sampleFile defaultFile samplePort = .ok s ∧
        load sampleFile defaultFile ((audience.name, "007") :: samplePort) =
          .ok (audience.put "7" s) := by
  have hne : "007" ≠ "" := by decide
  obtain ⟨text, harrives, hsets⟩ := sets_arriving_text .audience "007" hne
  have hseven : Arrives "007" "7" := by
    refine .whole 7 ?_ (signedInteger?_eq_some_iff.mp (by decide +kernel))
    rw [IsSwitch]
    decide +kernel
  obtain rfl : text = "7" := harrives.unique hseven
  have hloads : (load sampleFile defaultFile samplePort).toOption.isSome = true := by
    decide +kernel
  obtain ⟨s, hs⟩ := Option.isSome_iff_exists.mp hloads
  have hload : load sampleFile defaultFile samplePort = .ok s := toOption_eq_some_iff.mp hs
  have hall : (merged? sampleFile defaultFile samplePort).all
      (fun entries => isByName audience.names (.table entries)) = true := by
    decide +kernel
  have hnames : ∀ entries, merged? sampleFile defaultFile samplePort = some entries →
      isByName audience.names (.table entries) = true :=
    (Option.all_eq_true _ _).mp hall
  have hset := (hsets sampleFile defaultFile [] samplePort apart_samplePort).1 s hload hnames
  exact ⟨hne, apart_samplePort, s, hload, hset⟩

/-- Zeros in front of a number and behind its point are lost, and beside a name the settings that
stand in a list are. -/
theorem not_set_as_given :
    (load sampleFile defaultFile []).toOption.isSome = true ∧
      (load sampleFile defaultFile [(audience.name, "007")]).toOption.map
        (fun s => s.issuer.audience) = some "7" ∧
      (load sampleFile defaultFile [(kid.name, "2024.10")]).toOption.map
        (fun s => s.issuer.signing.kid) = some (some "2024.1") ∧
      (load listedFile defaultFile []).toOption.isSome = true ∧
      (load listedFile defaultFile [(audience.name, "issuer")]).toOption.isNone = true := by
  decide +kernel

end TextVariable

end CredentialIssuer.Settings
