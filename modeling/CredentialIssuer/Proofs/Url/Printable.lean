import CredentialIssuer.Proofs.Result
import CredentialIssuer.Proofs.Url.Alphabet

/-! Every URL that is read is written in printable ASCII, with the question mark before its query
as the first and the number sign before its fragment as the only one. -/
namespace CredentialIssuer.Url

/-- All parts but the fragment stay within their alphabets. -/
structure Printable (u : Url) : Prop where
  scheme : IsAddress u.scheme
  authority : ∀ a, u.authority = some a → IsAddress a.chars
  path : IsAddress u.path.chars
  query : ∀ q, u.query = some q → ∀ c ∈ q, IsQueryChar c

def AreAddresses (parts : List (List Char)) : Prop := ∀ part ∈ parts, IsAddress part

namespace AreAddresses

private theorem nil : AreAddresses [] := by simp [AreAddresses]

private theorem append {a b : List (List Char)} (ha : AreAddresses a) (hb : AreAddresses b) :
    AreAddresses (a ++ b) := by
  intro part hpart
  exact (List.mem_append.mp hpart).elim (ha part) (hb part)

private theorem singleton {part : List Char} (h : IsAddress part) : AreAddresses [part] := by
  intro p hp
  rwa [List.mem_singleton.mp hp]

private theorem mono {a b : List (List Char)} (h : AreAddresses b) (hs : ∀ part ∈ a, part ∈ b) :
    AreAddresses a :=
  fun part hpart => h part (hs part hpart)

private theorem pathChars {parts : List (List Char)} (h : AreAddresses parts) :
    IsAddress (Path.segments parts).chars := by
  intro c hc
  obtain ⟨part, hpart, hc⟩ := List.mem_flatMap.mp hc
  exact IsAddress.cons (by decide) (h part hpart) c hc

end AreAddresses

private theorem shortened_areAddresses {path : List (List Char)} (h : AreAddresses path) :
    AreAddresses (shortened path) := by
  rw [shortened]
  split
  · split
    · exact h
    · exact h.mono fun part hpart => List.dropLast_subset path hpart
  · exact h

private theorem add_areAddresses {w : Walk} {isLast : Bool} {segment : List Char}
    (hw : AreAddresses w.segments) (hs : IsAddress segment) :
    AreAddresses (w.add isLast segment).segments := by
  have hend : AreAddresses (if isLast then [[]] else []) := by
    cases isLast
    · exact .nil
    · exact .singleton .nil
  rw [Walk.add]
  split
  · exact (shortened_areAddresses hw).append hend
  · split
    · exact hw.append hend
    · exact hw.append (.singleton hs)

private theorem brokenDrive?_isAddress {segment drive rest : List Char}
    (h : brokenDrive? segment = some (drive, rest)) : IsAddress drive := by
  simp only [brokenDrive?] at h
  split at h
  · rename_i letter c tail _
    split at h
    · rename_i hletter
      simp only [Bool.and_eq_true] at hletter
      obtain ⟨rfl, -⟩ := Prod.mk.inj (Option.some.inj h)
      have halnum : letter.isAlphanum = true := by simp [Char.isAlphanum, hletter.1]
      have hlt : letter.toNat < 128 := by
        have := Text.isAlphanum_iff.mp halnum
        omega
      have hl := Text.forall_ascii (P := fun c => c.isAlphanum = true → IsAddressChar c)
        (by decide) hlt halnum
      exact .cons hl (.cons (by decide) .nil)
    · cases h
  · cases h

private theorem addOfFile_areAddresses {w : Walk} {isLast : Bool} {segment : List Char}
    (hw : AreAddresses w.segments) : AreAddresses (w.addOfFile isLast segment).segments := by
  have htext := path_escaped (unbroken segment)
  simp only [Walk.addOfFile]
  split
  · split
    · rename_i drive rest hdrive
      exact (AreAddresses.singleton (brokenDrive?_isAddress hdrive)).append
        (.singleton (path_escaped rest))
    · split
      · exact .singleton ((htext.mono fun c hc => List.mem_of_mem_take hc).append
          (.cons (by decide) .nil))
      · exact add_areAddresses hw htext
  · exact add_areAddresses hw htext

/-- A walk stays among addresses when each of its steps does. -/
private theorem addAll_areAddresses {add : Walk → Bool → List Char → Walk}
    {P : List Char → Prop} (hadd : ∀ w isLast segment, AreAddresses w.segments → P segment →
      AreAddresses (add w isLast segment).segments)
    {parts : List (List Char)} (hparts : ∀ part ∈ parts, P part) {w : Walk}
    (hw : AreAddresses w.segments) : AreAddresses (addAll add w parts).segments := by
  induction parts generalizing w with
  | nil => exact hw
  | cons part rest ih =>
    have hpart := hparts part List.mem_cons_self
    cases rest with
    | nil => exact hadd w true part hw hpart
    | cons =>
      exact ih (fun p hp => hparts p (List.mem_cons_of_mem _ hp)) (hadd w false part hw hpart)

private theorem segmentsOf_areAddresses (scheme cs : List Char) :
    AreAddresses (segmentsOf scheme cs) := by
  refine addAll_areAddresses (P := IsAddress) (fun w isLast segment => add_areAddresses) ?_ .nil
  intro part hpart
  obtain ⟨raw, -, rfl⟩ := List.mem_map.mp hpart
  exact path_escaped raw

private theorem fileWalk_areAddresses (cs : List Char) : AreAddresses (fileWalk cs).segments := by
  have hw : AreAddresses (addAll Walk.addOfFile ⟨[], false⟩ (slashSegments true cs)).segments :=
    addAll_areAddresses (P := fun _ => True)
      (fun w isLast segment hw _ => addOfFile_areAddresses hw) (fun _ _ => trivial) .nil
  rw [fileWalk]
  split
  · exact .singleton .nil
  · rename_i hkept
    refine hw.mono fun part hpart => ?_
    exact (List.dropWhile_sublist List.isEmpty).subset hpart

private theorem tail_query {special : Bool} {cs q : List Char}
    (h : (tail special cs).1 = some q) : ∀ c ∈ q, IsQueryChar c := by
  rw [tail.eq_def] at h
  split at h
  · rename_i rest
    obtain rfl := Option.some.inj h
    have haddress (c : Char) (hne : c ≠ '#') (hs : isQueryEscaped special c = false)
        (hlt : c.toNat < 128) : IsQueryChar c := by
      have hplain : isQueryEscaped false c = false := by
        simp only [isQueryEscaped, Bool.or_eq_false_iff] at hs ⊢
        exact ⟨hs.1, rfl⟩
      exact Text.forall_ascii (P := fun c => isQueryEscaped false c = false → IsQueryChar c)
        (by decide) hlt hplain
    intro c hc
    rcases Percent.mem_encode hc with he | ⟨hm, hs, hlt⟩
    · exact (isEscape_address he).1
    · exact haddress c (by simpa using List.all_eq_true.mp List.all_takeWhile c hm) hs hlt
  · cases h

private theorem assemble_printable {scheme rest : List Char} {authority : Option Authority}
    {path : Path} (hscheme : IsAddress scheme)
    (hauthority : ∀ a, authority = some a → IsAddress a.chars) (hpath : IsAddress path.chars) :
    Printable (assemble scheme authority path rest) :=
  ⟨hscheme, hauthority, hpath, fun _ hq => tail_query hq⟩

private theorem afterAuthority_printable {scheme cs : List Char} {authority : Authority}
    (hscheme : IsAddress scheme) (hauthority : IsAddress authority.chars) :
    Printable (afterAuthority scheme authority cs) := by
  rw [afterAuthority]
  refine assemble_printable hscheme ?_ (AreAddresses.pathChars ?_)
  · rintro a ⟨⟩
    exact hauthority
  · split
    · split
      · split
        · exact segmentsOf_areAddresses scheme _
        · exact segmentsOf_areAddresses scheme _
      · exact .singleton .nil
    · split
      · exact .nil
      · exact segmentsOf_areAddresses scheme _
      · exact segmentsOf_areAddresses scheme _

private theorem userinfo_isAddress {special : Bool} {cs info rest : List Char}
    (h : userinfo special cs = .ok (info, rest)) : IsAddress info := by
  rw [userinfo] at h
  split at h
  · obtain ⟨rfl, -⟩ := Prod.mk.inj (Except.ok.inj h)
    exact .nil
  · split at h
    · split at h
      · cases h
      · obtain ⟨rfl, -⟩ := Prod.mk.inj (Except.ok.inj h)
        exact .nil
    · obtain ⟨rfl, -⟩ := Prod.mk.inj (Except.ok.inj h)
      exact .nil
  · obtain ⟨rfl, -⟩ := Prod.mk.inj (Except.ok.inj h)
    exact userinfoChars_isAddress _

private theorem withAuthority_printable {scheme cs : List Char} {u : Url}
    (hscheme : IsAddress scheme) (h : withAuthority scheme cs = .ok u) : Printable u := by
  obtain ⟨⟨info, below⟩, hinfo, h⟩ := bind_eq_ok_iff.mp h
  have hinfo := userinfo_isAddress hinfo
  dsimp only at h
  split at h
  · split at h
    · cases h
    · obtain rfl := Except.ok.inj h
      exact afterAuthority_printable hscheme (authority_isAddress hinfo (by simp))
  · have hport {host : Host} {rest : List Char} (hhost : IsAddress host.chars)
        (h : (port scheme rest >>= fun parts =>
          .ok (afterAuthority scheme ⟨info, some host, parts.1⟩ parts.2)) = .ok u) :
        Printable u := by
      obtain ⟨parts, -, h⟩ := bind_eq_ok_iff.mp h
      obtain rfl := Except.ok.inj h
      refine afterAuthority_printable hscheme (authority_isAddress hinfo ?_)
      rintro _ ⟨⟩
      exact hhost
    split at h
    · obtain ⟨host, hhost, h⟩ := bind_eq_ok_iff.mp h
      exact hport (ofDomain_isAddress hhost) h
    · obtain ⟨host, hhost, h⟩ := bind_eq_ok_iff.mp h
      exact hport (ofOpaque_isAddress hhost) h

private theorem withFileHost_printable {scheme cs : List Char} {u : Url}
    (hscheme : IsAddress scheme) (h : withFileHost scheme cs = .ok u) : Printable u := by
  have hurl {host : Option Host} {drive : Bool} {text rest : List Char}
      (hhost : ∀ a, host = some a → IsAddress a.chars) :
      Printable (assemble scheme (some ⟨[], if drive then none else host, none⟩)
        (.segments (fileWalk text).segments) rest) := by
    refine assemble_printable hscheme ?_ (fileWalk_areAddresses text).pathChars
    rintro a ⟨⟩
    refine authority_isAddress .nil fun a ha => hhost a ?_
    cases drive
    · exact ha
    · cases ha
  simp only [withFileHost] at h
  split at h
  · obtain rfl := Except.ok.inj h
    exact hurl (by simp)
  · split at h
    · obtain ⟨host, hhost, h⟩ := bind_eq_ok_iff.mp h
      obtain rfl := Except.ok.inj hhost
      obtain rfl := Except.ok.inj h
      exact hurl (by simp)
    · obtain ⟨host, hhost, h⟩ := bind_eq_ok_iff.mp h
      obtain ⟨name, hname, rfl⟩ := map_eq_ok_iff.mp hhost
      split at h
      · obtain rfl := Except.ok.inj h
        exact hurl (by simp)
      · obtain rfl := Except.ok.inj h
        refine hurl ?_
        rintro _ ⟨⟩
        exact ofDomain_isAddress hname

private theorem localFile_printable {scheme cs : List Char} (hscheme : IsAddress scheme) :
    Printable (localFile scheme cs) := by
  refine assemble_printable hscheme ?_ (fileWalk_areAddresses _).pathChars
  rintro a ⟨⟩
  exact authority_isAddress .nil (by simp)

private theorem fileUrl_printable {scheme cs : List Char} {u : Url}
    (hscheme : IsAddress scheme) (h : fileUrl scheme cs = .ok u) : Printable u := by
  rw [fileUrl] at h
  split at h
  · obtain rfl := Except.ok.inj h
    exact localFile_printable hscheme
  · split at h
    · obtain rfl := Except.ok.inj h
      exact localFile_printable hscheme
    · exact withFileHost_printable hscheme h

private theorem unstructured_isAddress (cs : List Char) :
    IsAddress (Percent.encode Host.isControl (splitPath cs).1) := by
  refine encode_address fun c hc hs hlt => ?_
  have hend : endsPath c = false := by
    simpa using List.all_eq_true.mp List.all_takeWhile c hc
  exact Text.forall_ascii
    (P := fun c => endsPath c = false → Host.isControl c = false → IsAddressChar c)
    (by decide) hlt hend hs

private theorem ofScheme_printable {scheme cs : List Char} {u : Url}
    (hscheme : IsAddress scheme) (h : ofScheme scheme cs = .ok u) : Printable u := by
  rw [ofScheme.eq_def] at h
  split at h
  · exact withAuthority_printable hscheme h
  · split at h
    · exact withAuthority_printable hscheme h
    · obtain rfl := Except.ok.inj h
      exact assemble_printable hscheme (by simp) (segmentsOf_areAddresses scheme _).pathChars
    · obtain rfl := Except.ok.inj h
      exact assemble_printable hscheme (by simp) (unstructured_isAddress _)

private theorem scheme?_isAddress {cs scheme rest : List Char}
    (h : scheme? cs = some (scheme, rest)) : IsAddress scheme := by
  rw [scheme?.eq_def] at h
  split at h
  · split at h
    · split at h
      · obtain ⟨rfl, -⟩ := Prod.mk.inj (Option.some.inj h)
        intro c hc
        obtain ⟨d, hd, rfl⟩ := List.mem_map.mp hc
        have hs : isSchemeChar d = true := List.all_eq_true.mp List.all_takeWhile d hd
        have hlt : d.toNat < 128 := by
          simp only [isSchemeChar, Bool.or_eq_true, beq_iff_eq] at hs
          rcases hs with ((h | rfl) | rfl) | rfl
          · have := Text.isAlphanum_iff.mp h
            omega
          all_goals decide
        exact Text.forall_ascii (P := fun d => isSchemeChar d = true → IsAddressChar d.toLower)
          (by decide) hlt hs
      · cases h
    · cases h
  · cases h

/-- Whatever text is read as a URL, what is kept of it is printable. -/
theorem parse_printable {text : String} {u : Url} (h : parse text = .ok u) : Printable u := by
  simp only [parse] at h
  split at h
  · rename_i scheme rest hscheme
    have hscheme := scheme?_isAddress hscheme
    split at h
    · exact fileUrl_printable hscheme h
    · exact ofScheme_printable hscheme h
  · cases h

/-- All of a URL before its query stays within the alphabet. -/
theorem Printable.base {u : Url} (h : Printable u) : IsAddress u.base := by
  rw [Url.base]
  refine h.scheme.append (.cons (by decide) ?_)
  split
  · rename_i a ha
    exact .cons (by decide) (.cons (by decide) ((h.authority a ha).append h.path))
  · rw [guarded.eq_def]
    split
    · exact .cons (by decide) (.cons (by decide) h.path)
    · exact h.path

/-- Dropping the fragment leaves the rest within its alphabets. -/
theorem Printable.withoutFragment {u : Url} (h : Printable u) : Printable u.withoutFragment := by
  refine ⟨h.scheme, h.authority, ?_, h.query⟩
  simp only [Url.withoutFragment, trimmedPath]
  split
  · rename_i text hpath _
    have htext : IsAddress text := by simpa [hpath, Path.chars] using h.path
    refine htext.mono fun c hc => ?_
    simpa using (List.dropWhile_sublist _).subset (List.mem_reverse.mp hc)
  · exact h.path

end CredentialIssuer.Url
