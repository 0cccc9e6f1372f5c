import CredentialIssuer.Proofs.Result
import CredentialIssuer.Proofs.Text.Percent
import CredentialIssuer.Proofs.Text.Segments
import CredentialIssuer.Url.Parser

/-! The characters of URLs that were read. Before the query there is neither a question mark nor a
number sign, in the query there is no number sign, and nothing is outside printable ASCII. -/
namespace CredentialIssuer.Url

def IsQueryChar (c : Char) : Prop := 32 ≤ c.toNat ∧ c.toNat ≤ 126 ∧ c ≠ '#'

def IsAddressChar (c : Char) : Prop := IsQueryChar c ∧ c ≠ '?'

instance (c : Char) : Decidable (IsQueryChar c) := inferInstanceAs (Decidable (_ ∧ _ ∧ _))

instance (c : Char) : Decidable (IsAddressChar c) := inferInstanceAs (Decidable (_ ∧ _))

def IsAddress (cs : List Char) : Prop := ∀ c ∈ cs, IsAddressChar c

namespace IsAddress

theorem nil : IsAddress [] := by simp [IsAddress]

theorem cons {c : Char} {cs : List Char} (hc : IsAddressChar c) (h : IsAddress cs) :
    IsAddress (c :: cs) := by
  simpa [IsAddress] using ⟨hc, h⟩

theorem append {a b : List Char} (ha : IsAddress a) (hb : IsAddress b) : IsAddress (a ++ b) := by
  intro c hc
  exact (List.mem_append.mp hc).elim (ha c) (hb c)

theorem mono {a b : List Char} (h : IsAddress b) (hs : ∀ c ∈ a, c ∈ b) : IsAddress a :=
  fun c hc => h c (hs c hc)

private theorem join {sep : Char} (hs : IsAddressChar sep) {parts : List (List Char)}
    (h : ∀ part ∈ parts, IsAddress part) : IsAddress (Text.join sep parts) := by
  induction parts with
  | nil => exact nil
  | cons part rest ih =>
    have hrest := ih fun p hp => h p (List.mem_cons_of_mem _ hp)
    have hpart := h part List.mem_cons_self
    cases rest with
    | nil => exact hpart
    | cons => exact hpart.append (hrest.cons hs)

end IsAddress

/-- Escapes may stand before the query. -/
theorem isEscape_address {c : Char} (h : Percent.IsEscape c) : IsAddressChar c := by
  rcases h with rfl | ⟨n, hn, rfl⟩
  · decide
  · revert n
    decide

/-- Escaping leaves an address when all that it lets through may stand in one. -/
theorem encode_address {inSet : Char → Bool} {cs : List Char}
    (h : ∀ c ∈ cs, inSet c = false → c.toNat < 128 → IsAddressChar c) :
    IsAddress (Percent.encode inSet cs) := by
  intro c hc
  rcases Percent.mem_encode hc with he | ⟨hm, hs, hlt⟩
  · exact isEscape_address he
  · exact h c hm hs hlt

/-- An escaped path stays within the alphabet. -/
theorem path_escaped (cs : List Char) : IsAddress (Percent.encode isPathEscaped cs) := by
  refine encode_address fun c _ hs hlt => ?_
  exact Text.forall_ascii (P := fun c => isPathEscaped c = false → IsAddressChar c)
    (by decide) hlt hs

/-- User and password are escaped. -/
theorem userinfoChars_isAddress (cs : List Char) : IsAddress (userinfoChars cs) := by
  have hescape (cs : List Char) : IsAddress (Percent.encode isUserinfoEscaped cs) := by
    refine encode_address fun c _ hs hlt => ?_
    exact Text.forall_ascii (P := fun c => isUserinfoEscaped c = false → IsAddressChar c)
      (by decide) hlt hs
  have hat : IsAddress ['@'] := .cons (by decide) .nil
  rw [userinfoChars]
  split
  · split
    · exact .nil
    · exact (hescape cs).append hat
  · split
    · exact .nil
    · exact (hescape _).append hat
  · exact ((hescape _).append (.cons (by decide) (hescape _))).append hat

private theorem digits_isAddress (n : Nat) : IsAddress (toString n).toList := by
  intro c hc
  have hd : c.isDigit = true := by
    rw [Nat.toString_eq_ofList_toDigits, String.toList_ofList] at hc
    exact Nat.isDigit_of_mem_toDigits (by decide) (by decide) hc
  have hlt : c.toNat < 128 := by
    have := Text.isAlphanum_iff.mp (show c.isAlphanum = true by simp [Char.isAlphanum, hd])
    omega
  exact Text.forall_ascii (P := fun c => c.isDigit = true → IsAddressChar c) (by decide) hlt hd

private theorem hexChars_isAddress (n : Nat) : IsAddress (Ip.hexChars n) := by
  have hdigit : ∀ d < 16, IsAddressChar d.digitChar := by decide
  rw [Ip.hexChars]
  induction n using Nat.strongRecOn with
  | _ n ih =>
    rw [Nat.toDigits_eq_if (by decide)]
    split
    · rename_i hlt
      exact .cons (hdigit n hlt) .nil
    · exact (ih (n / 16) (by omega)).append (.cons (hdigit _ (Nat.mod_lt n (by decide))) .nil)

private theorem v6Chars_isAddress (groups : List Nat) : IsAddress (Ip.v6Chars groups) := by
  have hjoin (groups : List Nat) : IsAddress (Ip.colonJoin groups) := by
    refine IsAddress.join (by decide) fun part hpart => ?_
    obtain ⟨n, -, rfl⟩ := List.mem_map.mp hpart
    exact hexChars_isAddress n
  rw [Ip.v6Chars]
  split
  · exact (hjoin _).append (.cons (by decide) (.cons (by decide) (hjoin _)))
  · exact hjoin groups

private theorem digitChar_isAddress : ∀ n < 36, IsAddressChar (Punycode.digitChar n) := by decide

private theorem number_isAddress (bias k n : Nat) : IsAddress (Punycode.number bias k n) := by
  induction k, n using Punycode.number.induct bias with
  | case1 k n t hlt =>
    rw [Punycode.number, if_pos hlt]
    have ht : t ≤ 26 := by grind [Punycode.threshold]
    exact .cons (digitChar_isAddress n (by omega)) .nil
  | case2 k n t hge ih =>
    rw [Punycode.number, if_neg hge]
    have ht : t ≤ 26 := by grind [Punycode.threshold]
    -- A digit that does not end the number lies between the threshold and 36.
    have hmod : (n - t) % (36 - t) < 36 - t := Nat.mod_lt _ (by omega)
    have hdigit : t + (n - t) % (36 - t) < 36 := by omega
    exact ih.cons (digitChar_isAddress _ hdigit)

open Punycode (Coder) in
private theorem pass_isAddress (basic n : Nat) {label : List Char} {s : Coder}
    (hs : IsAddress s.written) : IsAddress (label.foldl (Coder.pass basic n) s).written := by
  induction label generalizing s with
  | nil => exact hs
  | cons c rest ih =>
    refine ih ?_
    rw [Coder.pass]
    split
    · exact hs
    · split
      · exact hs.append (number_isAddress _ _ _)
      · exact hs

open Punycode (Coder) in
private theorem tell_isAddress {basic n : Nat} {label : List Char} {codePoints : List Nat}
    {s : Coder} (hs : IsAddress s.written) :
    IsAddress (Coder.tell basic label s n codePoints).written := by
  induction codePoints generalizing n s with
  | nil => exact hs
  | cons m rest ih => exact ih (pass_isAddress basic m hs)

/-- Punycode keeps what a label has of ASCII and brings in letters, digits and hyphens only. -/
theorem encode_isAddress {label : List Char}
    (h : ∀ c ∈ label, Punycode.isAscii c = true → IsAddressChar c) :
    IsAddress (Punycode.encode label) := by
  refine tell_isAddress ?_
  have hbasic : IsAddress (label.filter Punycode.isAscii) := fun c hc =>
    h c (List.mem_filter.mp hc).1 (List.mem_filter.mp hc).2
  show IsAddress (if _ then _ else _)
  split
  · exact .nil
  · exact hbasic.append (.cons (by decide) .nil)

example : Punycode.encode ['b', 'ü', 'c', 'h', 'e', 'r'] =
    ['b', 'c', 'h', 'e', 'r', '-', 'k', 'v', 'a'] := by decide +kernel

/-- Labels are written in what their text has of ASCII, and in letters, digits and hyphens. -/
private theorem ofPrepared?_isAddress {text : List Char} {label : Label}
    (h : ∀ c ∈ text, Punycode.isAscii c = true → IsAddressChar c)
    (hl : Label.ofPrepared? text = some label) : IsAddress label.written := by
  have hplain (ha : text.all Punycode.isAscii = true) : IsAddress text := fun c hc =>
    h c hc (List.all_eq_true.mp ha c hc)
  rw [Label.ofPrepared?] at hl
  split at hl
  · split at hl
    · rename_i ha
      obtain ⟨shown, -, rfl⟩ := Option.map_eq_some_iff.mp hl
      exact hplain ha
    · cases hl
  · split at hl
    · rename_i ha
      obtain rfl := Option.some.inj hl
      exact hplain ha
    · split at hl
      · obtain rfl := Option.some.inj hl
        have hmark : IsAddress Label.mark :=
          .cons (by decide) (.cons (by decide) (.cons (by decide) (.cons (by decide) .nil)))
        exact hmark.append (encode_isAddress h)
      · cases hl

private theorem domain?_isAddress {cs name : List Char} (h : Host.domain? cs = some name) :
    IsAddress name := by
  simp only [Host.domain?, Option.bind_eq_bind, Option.bind_eq_some_iff] at h
  obtain ⟨text, -, prepared, -, h⟩ := h
  split at h
  · cases h
  · rename_i hallowed
    obtain ⟨labels, hlabels, h⟩ := Option.bind_eq_some_iff.mp h
    split at h
    · obtain rfl := Option.some.inj h
      -- What is forbidden in domains covers all of ASCII that is no address.
      have hascii : ∀ c ∈ prepared, Punycode.isAscii c = true → IsAddressChar c := by
        intro c hc ha
        have hforbidden : ¬Host.isForbiddenInDomain c = true := fun hf =>
          hallowed (List.any_eq_true.mpr ⟨c, hc, hf⟩)
        exact Text.forall_ascii (P := fun c => ¬Host.isForbiddenInDomain c = true → IsAddressChar c)
          (by decide) (by simpa [Punycode.isAscii] using ha) hforbidden
      refine IsAddress.join (by decide) fun part hpart => ?_
      obtain ⟨label, hlabel, rfl⟩ := List.mem_map.mp hpart
      obtain ⟨text, htext, hof⟩ := exists_of_mem_mapM hlabels hlabel
      exact ofPrepared?_isAddress (fun c hc => hascii c (Text.mem_of_mem_segments htext hc)) hof
    · cases h

private theorem bracketed?_isAddress {cs : List Char} {host : Host}
    (h : Host.bracketed? cs = .ok host) : IsAddress host.chars := by
  rw [Host.bracketed?] at h
  split at h
  · split at h
    · obtain rfl := Except.ok.inj h
      exact .cons (by decide) ((v6Chars_isAddress _).append (.cons (by decide) .nil))
    · cases h
  · cases h

/-- Domains are written in ASCII, also where their labels were not. -/
theorem ofDomain_isAddress {cs : List Char} {host : Host} (h : Host.ofDomain cs = .ok host) :
    IsAddress host.chars := by
  rw [Host.ofDomain] at h
  split at h
  · exact bracketed?_isAddress h
  · split at h
    · cases h
    · rename_i text hdomain
      split at h
      · cases h
      · split at h
        · split at h
          · obtain rfl := Except.ok.inj h
            refine IsAddress.join (by decide) fun part hpart => ?_
            obtain ⟨n, -, rfl⟩ := List.mem_map.mp hpart
            exact digits_isAddress n
          · cases h
        · obtain rfl := Except.ok.inj h
          exact domain?_isAddress hdomain

/-- Hosts of other schemes are escaped. -/
theorem ofOpaque_isAddress {cs : List Char} {host : Host} (h : Host.ofOpaque cs = .ok host) :
    IsAddress host.chars := by
  rw [Host.ofOpaque] at h
  split at h
  · exact bracketed?_isAddress h
  · split at h
    · cases h
    · rename_i hnone
      obtain rfl := Except.ok.inj h
      refine encode_address fun c hc hs hlt => ?_
      have hforbidden : Host.isForbiddenInHost c = false := by
        simpa using fun hf => hnone (List.any_eq_true.mpr ⟨c, hc, hf⟩)
      exact Text.forall_ascii
        (P := fun c => Host.isForbiddenInHost c = false → Host.isControl c = false →
          IsAddressChar c) (by decide) hlt hforbidden hs

/-- What stands between the slashes stays within the alphabet. -/
theorem authority_isAddress {info : List Char} {host : Option Host} {port : Option Nat}
    (hinfo : IsAddress info) (hhost : ∀ h, host = some h → IsAddress h.chars) :
    IsAddress (Authority.chars ⟨info, host, port⟩) := by
  refine (hinfo.append ?_).append ?_
  · cases host with
    | none => exact .nil
    | some h => exact hhost h rfl
  · cases port with
    | none => exact .nil
    | some p => exact .cons (by decide) (digits_isAddress p)

end CredentialIssuer.Url
