import CredentialIssuer.Http.ErrorResponse
import CredentialIssuer.Proofs.Text.Form
import CredentialIssuer.Proofs.Text.Segments
import CredentialIssuer.Proofs.Url.Printable
import CredentialIssuer.Redirect

/-! Redirect targets: the address that was given stays what it is, its own query comes first and
the pairs are read after it as they were put in. -/
namespace CredentialIssuer

namespace Url

/-- Before its query a location is what the URL is before its query, but for spaces at the end of a
path without a structure. -/
def SameAddress (u : Url) (location : String) : Prop :=
  ∃ n, location.toList.takeWhile (· ≠ '?') ++ List.replicate n ' ' =
      u.print.toList.takeWhile (fun c => !endsPath c) ∧
    (n ≠ 0 → ∃ text, u.path = .unstructured text)

private theorem pair_printable (name value : String) :
    ∀ c ∈ Form.pair name value, IsQueryChar c := by
  have htext (cs : List Char) : ∀ c ∈ Form.encodeText cs, IsQueryChar c := by
    intro c hc
    rcases Form.mem_encodeText hc with rfl | hp | he
    · decide
    · exact Text.forall_ascii (P := fun c => Form.isPlain c = true → IsQueryChar c) (by decide)
        (Form.isPlain_spec hp).1 hp
    · exact (isEscape_address he).1
  intro c hc
  rcases List.mem_append.mp hc with h | h
  · exact htext _ c h
  · rcases List.mem_cons.mp h with rfl | h
    · decide
    · exact htext _ c h

/-- A pair leaves all but the query, and comes after what was in it. -/
private theorem appendPair_eq (u : Url) (name value : String) :
    ∃ q, u.appendPair name value = { u with query := some q } ∧ u.query.getD [] <+: q ∧
      Form.pairs q = Form.pairs (u.query.getD []) ++ [(name, value)] ∧
      ∀ c ∈ q, c ∈ u.query.getD [] ∨ IsQueryChar c := by
  have hchar := pair_printable name value
  rw [appendPair]
  split
  · rename_i hq
    refine ⟨_, rfl, ?_, ?_, fun c hc => .inr (hchar c hc)⟩
    · simp [hq]
    · rw [Form.pairs_pair, hq]
      rfl
  · rename_i hq
    refine ⟨_, rfl, ?_, ?_, fun c hc => .inr (hchar c hc)⟩
    · simp [hq]
    · rw [Form.pairs_pair, hq]
      rfl
  · rename_i q _ hq
    refine ⟨_, rfl, ?_, ?_, ?_⟩
    · simp [hq]
    · rw [Form.pairs_append, Form.pairs_pair, hq, Option.getD_some]
    · intro c hc
      rw [hq, Option.getD_some]
      rcases List.mem_append.mp hc with h | h
      · exact .inl h
      · rcases List.mem_cons.mp h with rfl | h
        · exact .inr (by decide)
        · exact .inr (hchar c h)

private theorem foldl_appendPair_eq (u : Url) {pairs : List (String × String)} (hne : pairs ≠ []) :
    ∃ q, pairs.foldl (fun u p => u.appendPair p.1 p.2) u = { u with query := some q } ∧
      u.query.getD [] <+: q ∧ Form.pairs q = Form.pairs (u.query.getD []) ++ pairs ∧
      ∀ c ∈ q, c ∈ u.query.getD [] ∨ IsQueryChar c := by
  induction pairs generalizing u with
  | nil => exact absurd rfl hne
  | cons p rest ih =>
    obtain ⟨q, hu, hprefix, hpairs, hchars⟩ := appendPair_eq u p.1 p.2
    rw [List.foldl_cons, hu]
    cases rest with
    | nil => exact ⟨q, rfl, hprefix, hpairs, hchars⟩
    | cons next rest =>
      obtain ⟨r, hr, hprefix', hpairs', hchars'⟩ := ih { u with query := some q } (by simp)
      refine ⟨r, hr, hprefix.trans hprefix', ?_, fun c hc => ?_⟩
      · rw [hpairs', Option.getD_some, hpairs, List.append_assoc, List.singleton_append]
      · rcases hchars' c hc with h | h
        · exact hchars c h
        · exact .inr h

/-- Whether a path is guarded is settled by its first two characters. -/
private theorem guarded_append (path : List Char) {rest : List Char} (h : rest.head? ≠ some '/') :
    guarded (path ++ rest) = guarded path ++ rest := by
  have hplain {path : List Char} (h : ∀ below, path ≠ '/' :: '/' :: below) :
      guarded path = path := by
    rw [guarded.eq_def]
    split
    · rename_i below
      exact absurd rfl (h below)
    · rfl
  rcases path with _ | ⟨c, _ | ⟨d, below⟩⟩
  · refine hplain fun below hb => h ?_
    rw [← List.nil_append rest, hb]
    rfl
  · rw [hplain, hplain]
    · simp
    · rintro below hb
      obtain ⟨-, rfl⟩ := List.cons.inj hb
      exact h rfl
  · by_cases hslash : c = '/' ∧ d = '/'
    · obtain ⟨rfl, rfl⟩ := hslash
      rfl
    · rw [hplain, hplain]
      · rintro _ ⟨⟩
        exact hslash ⟨rfl, rfl⟩
      · rintro _ ⟨⟩
        exact hslash ⟨rfl, rfl⟩

private theorem trimmed_append_spaces (text : List Char) :
    ∃ n, (text.reverse.dropWhile (· = ' ')).reverse ++ List.replicate n ' ' = text := by
  refine ⟨(text.reverse.takeWhile (· = ' ')).length, ?_⟩
  have hspaces : text.reverse.takeWhile (· = ' ') =
      List.replicate (text.reverse.takeWhile (· = ' ')).length ' ' :=
    List.eq_replicate_iff.mpr
      ⟨rfl, fun c hc => by simpa using List.all_eq_true.mp List.all_takeWhile c hc⟩
  rw [← List.reverse_replicate, ← hspaces, ← List.reverse_append, List.takeWhile_append_dropWhile,
    List.reverse_reverse]

/-- Dropping the fragment takes nothing but spaces from what comes before the query. -/
private theorem withoutFragment_base (u : Url) :
    ∃ n, u.withoutFragment.base ++ List.replicate n ' ' = u.base ∧
      (n ≠ 0 → ∃ text, u.path = .unstructured text) := by
  have hnone {v : Url} (h : v.base = u.base) : ∃ n, v.base ++ List.replicate n ' ' = u.base ∧
      (n ≠ 0 → ∃ text, u.path = .unstructured text) :=
    ⟨0, by simpa using h, fun h => absurd rfl h⟩
  obtain ⟨scheme, authority, path, query, fragment⟩ := u
  cases path with
  | segments items => exact hnone rfl
  | unstructured text =>
    cases query with
    | some q => exact hnone rfl
    | none =>
      obtain ⟨n, hn⟩ := trimmed_append_spaces text
      refine ⟨n, ?_, fun _ => ⟨text, rfl⟩⟩
      have hhead : (List.replicate n ' ').head? ≠ some '/' := by
        cases n <;> simp [List.replicate_succ]
      have hguarded := guarded_append (text.reverse.dropWhile (· = ' ')).reverse hhead
      rw [hn] at hguarded
      cases authority with
      | none => simp [base, withoutFragment, trimmedPath, Path.chars, hguarded]
      | some a => simp [base, withoutFragment, trimmedPath, Path.chars, hn]

private theorem Printable.takeWhile_print {u : Url} (h : Printable u) :
    u.print.toList.takeWhile (fun c => !endsPath c) = u.base := by
  rw [print, String.toList_ofList, chars, List.append_assoc]
  refine Text.takeWhile_append_of_head (fun c hc => ?_) fun c hc => ?_
  · obtain ⟨⟨-, -, hhash⟩, hquestion⟩ := h.base c hc
    simp [endsPath, hhash, hquestion]
  · cases hq : u.query with
    | some q =>
      rw [hq] at hc
      obtain rfl := Option.some.inj hc
      rfl
    | none =>
      cases hf : u.fragment with
      | none => simp [hq, hf] at hc
      | some f =>
        rw [hq, hf] at hc
        obtain rfl := Option.some.inj hc
        rfl

end Url

namespace Redirect

def queryOf (location : String) : List Char :=
  (location.toList.dropWhile (· ≠ '?')).drop 1

/-- A location that leads where the URL does and carries pairs after the pairs of its query. -/
structure Carries (u : Url) (pairs : List (String × String)) (location : String) : Prop where
  address : u.SameAddress location
  query : u.query.getD [] <+: queryOf location
  pairs : Form.pairs (queryOf location) = Form.pairs (u.query.getD []) ++ pairs
  noFragment : '#' ∉ location.toList
  headerText : Http.isHeaderText location = true

/-- What may stand in a query may stand in a header. -/
private theorem isHeaderText_of_isQueryChar {cs : List Char} (h : ∀ c ∈ cs, Url.IsQueryChar c) :
    Http.isHeaderText (String.ofList cs) = true := by
  rw [Http.isHeaderText, String.toList_ofList, List.all_eq_true]
  intro c hc
  have hlt : c.toNat < 128 := by
    have := (h c hc).2.1
    omega
  exact Text.forall_ascii
    (P := fun c => Url.IsQueryChar c → (c == '\t' || (' ' ≤ c && c ≠ '\x7f')) = true)
    (by decide) hlt (h c hc)

/-- With at least one pair there is a target whenever the given text is a URL. -/
theorem target_carries {uri : String} {u : Url} (hu : Url.parse uri = .ok u)
    {pairs : List (String × String)} (hne : pairs ≠ []) :
    ∃ location, target uri pairs = .ok location ∧ Carries u pairs location := by
  obtain ⟨q, hfold, hprefix, hpairs, hchars⟩ := Url.foldl_appendPair_eq u.withoutFragment hne
  obtain ⟨n, hbase, hpath⟩ := u.withoutFragment_base
  have hprintable := Url.parse_printable hu
  have hclean := hprintable.withoutFragment.base
  have hq : ∀ c ∈ q, Url.IsQueryChar c := by
    intro c hc
    rcases hchars c hc with h | h
    · cases hquery : u.query with
      | none => simp [Url.withoutFragment, hquery] at h
      | some r => exact hprintable.query r hquery c (by simpa [Url.withoutFragment, hquery] using h)
    · exact h
  have hmark : ∀ c ∈ u.withoutFragment.base, decide (c ≠ '?') = true :=
    fun c hc => by simpa using (hclean c hc).2
  have htext : ∀ c ∈ u.withoutFragment.base ++ '?' :: q, Url.IsQueryChar c := by
    intro c hc
    rcases List.mem_append.mp hc with h | h
    · exact (hclean c h).1
    · rcases List.mem_cons.mp h with rfl | h
      · decide
      · exact hq c h
  refine ⟨String.ofList (u.withoutFragment.base ++ '?' :: q), ?_, ?_⟩
  · have hprint : ({ u.withoutFragment with query := some q } : Url).print =
        String.ofList (u.withoutFragment.base ++ '?' :: q) := by
      simp [Url.print, Url.chars, Url.base, Url.withoutFragment]
    rw [target, hu]
    exact congrArg Except.ok ((congrArg Url.print hfold).trans hprint)
  · have hquery : queryOf (String.ofList (u.withoutFragment.base ++ '?' :: q)) = q := by
      rw [queryOf, String.toList_ofList, List.dropWhile_append_of_pos hmark]
      simp
    refine ⟨⟨n, ?_, hpath⟩, ?_, ?_, ?_, ?_⟩
    · rw [hprintable.takeWhile_print, String.toList_ofList,
        Text.takeWhile_append_of_head hmark (by simp), hbase]
    · rw [hquery]
      exact hprefix
    · rw [hquery]
      exact hpairs
    · rw [String.toList_ofList]
      exact fun h => (htext _ h).2.2 rfl
    · exact isHeaderText_of_isQueryChar htext

private theorem optionalPair_eq (name : String) (value : Option String) :
    optionalPair name value = value.toList.map (name, ·) := by
  cases value <;> rfl

private theorem target_of_parse_error {uri : String} {fault : Url.ParseError}
    (h : Url.parse uri = .error fault) (pairs : List (String × String)) :
    target uri pairs = .error fault := by
  rw [target, h]
  rfl

/-- Both kinds of answers lead where a given URL does and carry what they have to tell, in this
order; without a URL there is neither. -/
theorem redirects_of_uri (uri : String) :
    match Url.parse uri with
    | .ok u =>
      (∀ code state, ∃ location, success uri code state = .ok location ∧
        Carries u (("code", code) :: state.toList.map ("state", ·)) location) ∧
      ∀ code description state, ∃ location, error uri code description state = .ok location ∧
        Carries u (("error", code.text) :: (description.toList.map ("error_description", ·) ++
          state.toList.map ("state", ·))) location
    | .error fault =>
      (∀ code state, success uri code state = .error fault) ∧
        ∀ code description state, error uri code description state = .error fault := by
  cases hu : Url.parse uri with
  | ok u =>
    refine ⟨fun code state => ?_, fun code description state => ?_⟩
    · obtain ⟨location, hlocation, hcarries⟩ :=
        target_carries hu (List.cons_ne_nil ("code", code) (optionalPair "state" state))
      rw [optionalPair_eq] at hcarries
      exact ⟨location, hlocation, hcarries⟩
    · obtain ⟨location, hlocation, hcarries⟩ := target_carries hu (List.cons_ne_nil
        ("error", code.text)
        (optionalPair "error_description" description ++ optionalPair "state" state))
      rw [optionalPair_eq, optionalPair_eq] at hcarries
      exact ⟨location, hlocation, hcarries⟩
  | error fault =>
    exact ⟨fun code state => target_of_parse_error hu _,
      fun code description state => target_of_parse_error hu _⟩

/-- The spaces before a fragment go with it, and what is given may hold any sign. -/
example : (success "data:a  #top" "x&y" (some "z w")).toOption =
    some "data:a?code=x%26y&state=z+w" := by decide +kernel

end Redirect

end CredentialIssuer
