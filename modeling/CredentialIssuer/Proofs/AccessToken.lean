import CredentialIssuer.AccessToken
import CredentialIssuer.Proofs.Text.Blank
import CredentialIssuer.Proofs.Text.Segments

/-! Which headers carry a bearer token, and what a resolution asks the store.

A header is read in two steps that do not agree on what ends a word: the scheme ends at the
first space, and the token stands between blanks of every kind. -/
namespace CredentialIssuer.AccessToken
open Text

def IsToken (token : String) : Prop := token ≠ "" ∧ ∀ c ∈ token.toList, isBlank c = false

/-- The header is the scheme in any case, one space, and the token with blanks around it. -/
structure IsBearer (authorization token : String) : Prop where
  parts : ∃ word before after,
    authorization.toList = word ++ ' ' :: (before ++ token.toList ++ after) ∧
    ' ' ∉ word ∧ word.map Char.toLower = scheme ∧ AllBlank before ∧ AllBlank after
  token : IsToken token

/-- The answer to a header, and the tokens the store is asked for to give it. -/
inductive Resolves (store : Store) :
    Option String → List String → Except ServiceError String → Prop
  | missing : Resolves store none [] (.error .missingToken)
  | malformed {text : String} : (∀ token, ¬ IsBearer text token) →
      Resolves store (some text) [] (.error invalidRequest)
  | failed {text token : String} {e : ServiceError} : IsBearer text token →
      store token = .error e → Resolves store (some text) [token] (.error e)
  | unknown {text token : String} : IsBearer text token → store token = .ok none →
      Resolves store (some text) [token] (.error accessDenied)
  | known {text token resourceId : String} : IsBearer text token →
      store token = .ok (some resourceId) → Resolves store (some text) [token] (.ok resourceId)

private theorem bare?_eq_some_iff {cs : List Char} {token : String} :
    bare? cs = some token ↔ cs = token.toList ∧ IsToken token := by
  have hopen : (cs.isEmpty || cs.any isBlank) = false ↔ cs ≠ [] ∧ ∀ c ∈ cs, isBlank c = false := by
    simp
  unfold bare? IsToken
  constructor
  · intro h
    split at h
    · cases h
    · rename_i hgood
      obtain ⟨hne, hfree⟩ := hopen.mp (Bool.eq_false_iff.mpr hgood)
      obtain rfl := Option.some.inj h
      rw [String.toList_ofList]
      refine ⟨rfl, fun hempty => hne ?_, hfree⟩
      exact String.ofList_eq_empty_iff.mp hempty
  · rintro ⟨rfl, hne, hfree⟩
    have hchars : token.toList ≠ [] := fun h => hne (String.toList_eq_nil_iff.mp h)
    rw [if_neg (by rw [hopen.mpr ⟨hchars, hfree⟩]; exact Bool.false_ne_true), String.ofList_toList]

/-- A header is read exactly where it has the form of the scheme, and then as its token. -/
theorem parse_eq_ok_iff {authorization token : String} :
    parse authorization = .ok token ↔ IsBearer authorization token := by
  constructor
  · intro h
    unfold parse at h
    split at h
    · cases h
    · rename_i word rest hsplit
      split at h
      · rename_i hscheme
        split at h
        · rename_i found hfound
          obtain rfl := Except.ok.inj h
          obtain ⟨hcs, hspace⟩ := splitFirst?_eq_some_iff.mp hsplit
          obtain ⟨htrim, htoken⟩ := bare?_eq_some_iff.mp hfound
          obtain ⟨⟨before, after, rfl, hbefore, hafter⟩, -, -⟩ := trim_eq_iff.mp htrim
          exact ⟨⟨word, before, after, hcs, hspace, hscheme, hbefore, hafter⟩, htoken⟩
        · cases h
      · cases h
  · rintro ⟨⟨word, before, after, hcs, hspace, hscheme, hbefore, hafter⟩, htoken⟩
    have hsplit := splitFirst?_eq_some_iff.mpr ⟨hcs, hspace⟩
    have htrim := trim_eq_iff.mpr (isCore_of_no_blank htoken.2 hbefore hafter)
    have hbare := bare?_eq_some_iff.mpr ⟨rfl, htoken⟩
    simp only [parse, hsplit, hscheme, htrim, hbare, if_true]

/-- There is one error for all the ways a header can be malformed. -/
private theorem eq_invalidRequest_of_parse {authorization : String} {e : ServiceError}
    (h : parse authorization = .error e) : e = invalidRequest := by
  unfold parse at h
  repeat' split at h
  all_goals cases h
  all_goals rfl

/-- There is one error for all other headers. -/
theorem parse_eq_error_iff {authorization : String} {e : ServiceError} :
    parse authorization = .error e ↔
      e = invalidRequest ∧ ∀ token, ¬ IsBearer authorization token := by
  constructor
  · intro h
    refine ⟨eq_invalidRequest_of_parse h, fun token htoken => ?_⟩
    rw [parse_eq_ok_iff.mpr htoken] at h
    cases h
  · rintro ⟨rfl, hnone⟩
    cases hparse : parse authorization with
    | ok token => exact absurd (parse_eq_ok_iff.mp hparse) (hnone token)
    | error e => rw [eq_invalidRequest_of_parse hparse]

private theorem isBearer_append {token : String} (h : IsToken token) :
    IsBearer ("Bearer " ++ token) token where
  parts := by
    refine ⟨"Bearer".toList, [], [], ?_, by decide, by decide, nofun, nofun⟩
    rw [String.toList_append, List.append_nil]
    rfl
  token := h

/-- Every header has the answer that the rules give it, with the lookups that they allow. -/
theorem resolves_resolve (store : Store) (authorization : Option String) :
    Resolves store authorization (resolve store authorization).lookups
      (resolve store authorization).result := by
  cases authorization with
  | none => exact .missing
  | some text =>
    cases hparse : parse text with
    | error e =>
      obtain ⟨rfl, hnone⟩ := parse_eq_error_iff.mp hparse
      rw [resolve_of_refused hparse]
      exact .malformed hnone
    | ok token =>
      have hbearer := parse_eq_ok_iff.mp hparse
      rw [resolve_of_parsed hparse]
      match hstore : store token with
      | .error e => exact .failed hbearer hstore
      | .ok none => exact .unknown hbearer hstore
      | .ok (some resourceId) => exact .known hbearer hstore

/-- A resolution adds its own lookups to those the store has seen, and no others. -/
private theorem run_resolveWith (store : Store) (authorization : Option String)
    (earlier : List String) :
    (resolveWith (recorded store) authorization).run earlier =
      ((resolve store authorization).result, earlier ++ (resolve store authorization).lookups) := by
  cases authorization with
  | none => rw [resolve_none, List.append_nil]; rfl
  | some text =>
    cases hparse : parse text with
    | error e =>
      rw [resolve_of_refused hparse, List.append_nil, resolveWith, hparse]
      rfl
    | ok token =>
      rw [resolve_of_parsed hparse, resolveWith, hparse]
      rfl

/-- The tokens of the grammar are the tokens that are read, every token can be sent, and the
store is asked once for the token of the header, or not at all. -/
theorem bearer_grammar_resolves :
    (∀ authorization token, parse authorization = .ok token ↔ IsBearer authorization token) ∧
    (∀ token, IsToken token → parse ("Bearer " ++ token) = .ok token) ∧
    ∀ (store : Store) (authorization : Option String) (earlier : List String),
      ∃ asked answer,
        (resolveWith (recorded store) authorization).run earlier = (answer, earlier ++ asked) ∧
        Resolves store authorization asked answer :=
  ⟨fun _ _ => parse_eq_ok_iff, fun _ h => parse_eq_ok_iff.mpr (isBearer_append h),
    fun store authorization earlier => ⟨_, _, run_resolveWith store authorization earlier,
      resolves_resolve store authorization⟩⟩

/-- A token of three letters after one space. -/
theorem bearer_abc_parses : IsToken "abc" ∧ parse "Bearer abc" = .ok "abc" :=
  have hbare : bare? "abc".toList = some "abc" := rfl
  have h : IsToken "abc" := (bare?_eq_some_iff.mp hbare).2
  ⟨h, bearer_grammar_resolves.2.1 "abc" h⟩

end CredentialIssuer.AccessToken
