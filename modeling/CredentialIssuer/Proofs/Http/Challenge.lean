import CredentialIssuer.Http.ErrorResponse
import Mathlib.Data.List.Count

/-! The challenge to a client that is not known, as its receiver reads it: two quoted strings, in
which a backslash gives way to the character after it. -/
namespace CredentialIssuer.Http

open RequestObject

section QuotedStrings

/-- The text of a quoted string, read from behind the quote that opens it, and what follows the
quote that closes it. -/
def unquoted? : List Char → Option (List Char × List Char)
  | [] => none
  | '"' :: rest => some ([], rest)
  | ['\\'] => none
  | '\\' :: c :: rest => (unquoted? rest).map fun read => (c :: read.1, read.2)
  | c :: rest => (unquoted? rest).map fun read => (c :: read.1, read.2)

private theorem unquoted?_cons {c : Char} (hquote : c ≠ '"') (hbackslash : c ≠ '\\')
    (cs : List Char) :
    unquoted? (c :: cs) = (unquoted? cs).map fun read => (c :: read.1, read.2) := by
  rw [unquoted?]
  · exact hquote
  · exact fun h _ => hbackslash h
  · exact fun _ _ h _ => hbackslash h

/-- Each quote and each backslash of the text takes two characters. -/
private theorem length_of_unquoted? {cs text rest : List Char}
    (h : unquoted? cs = some (text, rest)) :
    text.length + text.count '"' + text.count '\\' + rest.length < cs.length := by
  induction cs using unquoted?.induct generalizing text rest with
  | case1 => cases h
  | case2 tail =>
    obtain ⟨rfl, rfl⟩ := Prod.mk.inj (Option.some.inj h)
    simp
  | case3 => cases h
  | case4 c tail ih =>
    obtain ⟨⟨read, following⟩, hread, heq⟩ := Option.map_eq_some_iff.mp h
    obtain ⟨rfl, rfl⟩ := Prod.mk.inj heq
    have hlength := ih hread
    have hspecial : [c].count '"' + [c].count '\\' ≤ 1 := by
      by_cases hc : c = '"'
      · simp [hc]
      · rw [List.count_cons_of_ne hc, List.count_nil, Nat.zero_add]
        exact List.count_le_length
    dsimp only
    rw [← List.singleton_append, List.count_append, List.count_append]
    simp only [List.length_append, List.length_cons, List.length_nil]
    omega
  | case5 c tail hquote hlone hbackslash ih =>
    have hne : c ≠ '\\' := by
      rintro rfl
      cases tail with
      | nil => exact hlone rfl rfl
      | cons d tail => exact hbackslash d tail rfl rfl
    rw [unquoted?_cons hquote hne] at h
    obtain ⟨⟨read, following⟩, hread, heq⟩ := Option.map_eq_some_iff.mp h
    obtain ⟨rfl, rfl⟩ := Prod.mk.inj heq
    have hlength := ih hread
    dsimp only
    rw [List.count_cons_of_ne hquote, List.count_cons_of_ne hne]
    simp only [List.length_cons]
    omega

end QuotedStrings

section Escaping

private theorem quoteEscaped_cons (c : Char) (cs : List Char) :
    quoteEscaped (c :: cs) = (if c = '"' then ['\\', '"'] else [c]) ++ quoteEscaped cs := rfl

/-- Only quotes take two characters. -/
private theorem length_quoteEscaped (text : List Char) :
    (quoteEscaped text).length = text.length + text.count '"' := by
  induction text with
  | nil => rfl
  | cons c cs ih =>
    rw [quoteEscaped_cons, List.length_append, ih]
    by_cases hc : c = '"'
    · subst hc
      simp only [if_pos, List.length_cons, List.length_nil, List.count_cons_self]
      omega
    · rw [if_neg hc, List.count_cons_of_ne hc]
      simp only [List.length_cons, List.length_nil]
      omega

private theorem unquoted?_quoteEscaped {text : List Char} (h : '\\' ∉ text) (rest : List Char) :
    unquoted? (quoteEscaped text ++ '"' :: rest) = some (text, rest) := by
  induction text with
  | nil => rfl
  | cons c cs ih =>
    obtain ⟨hc, hcs⟩ := not_or.mp (mt List.mem_cons.mpr h)
    rw [quoteEscaped_cons, List.append_assoc]
    by_cases hquote : c = '"'
    · subst hquote
      simp only [if_pos, List.cons_append, List.nil_append]
      rw [unquoted?, ih hcs, Option.map_some]
    · rw [if_neg hquote, List.singleton_append, unquoted?_cons hquote (Ne.symm hc), ih hcs,
        Option.map_some]

/-- A text is read back from its quoted string exactly if no backslash stands in it: one would have
to take two characters, but is written as one. -/
theorem unquoted?_quoteEscaped_iff {text : List Char} (rest : List Char) :
    unquoted? (quoteEscaped text ++ '"' :: rest) = some (text, rest) ↔ '\\' ∉ text := by
  refine ⟨fun h => ?_, fun h => unquoted?_quoteEscaped h rest⟩
  have hlength := length_of_unquoted? h
  rw [List.length_append, length_quoteEscaped, List.length_cons] at hlength
  exact List.count_eq_zero.mp (by omega)

end Escaping

/-- A challenge of a code and a description, each a quoted string, and of nothing after them. -/
def Challenges (header code description : String) : Prop :=
  ∃ first second, header.toList = "Bearer error=\"".toList ++ first ∧
    unquoted? first = some (code.toList, ", error_description=\"".toList ++ second) ∧
    unquoted? second = some (description.toList, [])

-- For any texts, as literals would be taken apart here.
private theorem toList_joined (a b c : String) (cs : List Char) (d : String) :
    (a ++ b ++ c ++ String.ofList cs ++ d).toList =
      a.toList ++ (b.toList ++ (c.toList ++ (cs ++ d.toList))) := by
  simp only [String.toList_append, String.toList_ofList, List.append_assoc]

private theorem toList_challenge (code description : String) :
    (challenge code description).toList =
      "Bearer error=\"".toList ++ (code.toList ++ '"' :: (", error_description=\"".toList ++
        (quoteEscaped description.toList ++ ['"']))) :=
  toList_joined _ _ _ _ _

/-- Codes are made of letters and underscores. -/
theorem quoteEscaped_code (code : ErrorCode) :
    quoteEscaped code.text.toList = code.text.toList := by
  cases code <;> decide

private theorem backslash_not_mem_code (code : ErrorCode) : '\\' ∉ code.text.toList := by
  cases code <;> decide

/-- What a challenge gives is its code, and its description as it is read back. -/
theorem challenges_iff {code : ErrorCode} {description otherCode other : String} :
    Challenges (challenge code.text description) otherCode other ↔
      otherCode = code.text ∧
        unquoted? (quoteEscaped description.toList ++ ['"']) = some (other.toList, []) := by
  have hcode (rest : List Char) : unquoted? (code.text.toList ++ '"' :: rest) =
      some (code.text.toList, rest) := by
    have hread := unquoted?_quoteEscaped (backslash_not_mem_code code) rest
    rwa [quoteEscaped_code] at hread
  rw [Challenges, toList_challenge]
  constructor
  · rintro ⟨first, second, hfirst, hread, hdescription⟩
    obtain rfl := List.append_cancel_left hfirst
    rw [hcode] at hread
    obtain ⟨htext, hsecond⟩ := Prod.mk.inj (Option.some.inj hread)
    obtain rfl := List.append_cancel_left hsecond
    exact ⟨String.toList_inj.mp htext.symm, hdescription⟩
  · rintro ⟨rfl, hdescription⟩
    exact ⟨_, _, rfl, hcode _, hdescription⟩

section Header

def IsControl (c : Char) : Prop := c ≠ '\t' ∧ (c < ' ' ∨ c = '\x7f')

instance (c : Char) : Decidable (IsControl c) := inferInstanceAs (Decidable (_ ∧ _))

/-- A text can stand in a header exactly if no control character is in it. -/
theorem isHeaderText_iff {text : String} :
    isHeaderText text = true ↔ ∀ c ∈ text.toList, ¬ IsControl c := by
  simp only [isHeaderText, List.all_eq_true]
  refine forall₂_congr fun c _ => ?_
  simp [IsControl, or_iff_not_imp_left]

private theorem mem_quoteEscaped_iff {c : Char} {text : List Char} :
    c ∈ quoteEscaped text ↔ c ∈ text ∨ c = '\\' ∧ '"' ∈ text := by
  simp only [quoteEscaped, List.mem_flatMap]
  constructor
  · rintro ⟨d, hd, hc⟩
    split at hc
    · rename_i hquote
      subst hquote
      simp only [List.mem_cons, List.not_mem_nil, or_false] at hc
      rcases hc with rfl | rfl
      · exact .inr ⟨rfl, hd⟩
      · exact .inl hd
    · exact .inl (List.mem_singleton.mp hc ▸ hd)
  · rintro (hc | ⟨rfl, hquote⟩)
    · refine ⟨c, hc, ?_⟩
      split
      · rename_i hquote
        simp [hquote]
      · exact List.mem_singleton.mpr rfl
    · exact ⟨'"', hquote, by simp⟩

/-- A control character in a challenge is one of its description. -/
theorem isHeaderText_challenge_iff (code : ErrorCode) (description : String) :
    isHeaderText (challenge code.text description) = true ↔
      ∀ c ∈ description.toList, ¬ IsControl c := by
  have hframe : ("Bearer error=\"".toList ++ (code.text.toList ++
      '"' :: ", error_description=\"".toList)).all (fun c => ¬ IsControl c) = true := by
    cases code <;> decide
  have hchars : (challenge code.text description).toList =
      "Bearer error=\"".toList ++ (code.text.toList ++ '"' :: ", error_description=\"".toList) ++
        (quoteEscaped description.toList ++ ['"']) := by
    rw [toList_challenge]
    simp only [List.append_assoc, List.cons_append]
  rw [isHeaderText_iff, hchars]
  constructor
  · intro h c hc
    have hescaped := mem_quoteEscaped_iff.mpr (.inl hc)
    exact h c (List.mem_append_right _ (List.mem_append_left _ hescaped))
  · intro h c hc
    rcases List.mem_append.mp hc with hc | hc
    · exact of_decide_eq_true (List.all_eq_true.mp hframe c hc)
    · rcases List.mem_append.mp hc with hc | hc
      · rcases mem_quoteEscaped_iff.mp hc with hc | ⟨rfl, -⟩
        · exact h c hc
        · decide
      · obtain rfl := List.mem_singleton.mp hc
        decide

/-- Among fatal failures only those of a client that is not known are answered with a challenge, and
only where it can stand in a header. -/
theorem header?_ofFatalFailure (f : FatalFailure) :
    (ofFatalFailure f).header? "www-authenticate" =
      if f.code.status = 401 ∧ isHeaderText (challenge f.code.text f.description) then
        some (challenge f.code.text f.description)
      else none := by
  rw [ofFatalFailure, errorResponse, challengeHeader]
  split
  · rfl
  · rfl

end Header

/-- A client that is not known is challenged with any description that may stand in a header. The
challenge ends with its second string and gives the description back, unless there is a backslash in
it: that is never escaped. -/
theorem invalidClient_challenge_reads_back (description : String)
    (h : ∀ c ∈ description.toList, ¬ IsControl c) :
    ∃ header, (ofFatalFailure ⟨.invalidClient, description⟩).header? "www-authenticate" =
        some header ∧
      (Challenges header "invalid_client" description ↔ '\\' ∉ description.toList) := by
  refine ⟨challenge ErrorCode.invalidClient.text description, ?_, ?_⟩
  · rw [header?_ofFatalFailure]
    exact if_pos ⟨rfl, (isHeaderText_challenge_iff .invalidClient description).mpr h⟩
  · rw [← unquoted?_quoteEscaped_iff [], challenges_iff]
    exact and_iff_right rfl

/-- Quotes are escaped, and characters outside ASCII go through. -/
theorem quotes_challenge_reads_back :
    ∃ header, (ofFatalFailure ⟨.invalidClient, "Not \"known\", \"é\""⟩).header?
        "www-authenticate" = some header ∧
      Challenges header "invalid_client" "Not \"known\", \"é\"" := by
  obtain ⟨header, hheader, hreads⟩ :=
    invalidClient_challenge_reads_back "Not \"known\", \"é\"" (isHeaderText_iff.mp rfl)
  exact ⟨header, hheader, hreads.mpr (by decide)⟩

/-- A backslash at the end swallows the quote that should close the string. -/
theorem backslash_challenge_unreadable :
    (∀ c ∈ "\\".toList, ¬ IsControl c) ∧
      ∃ header, (ofFatalFailure ⟨.invalidClient, "\\"⟩).header? "www-authenticate" =
          some header ∧
        ∀ code description, ¬ Challenges header code description := by
  refine ⟨isHeaderText_iff.mp rfl, challenge ErrorCode.invalidClient.text "\\", by decide, ?_⟩
  intro code description hreads
  obtain ⟨-, hread⟩ := challenges_iff.mp hreads
  cases hread

end CredentialIssuer.Http
