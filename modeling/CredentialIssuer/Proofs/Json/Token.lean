import CredentialIssuer.Json.Token
import CredentialIssuer.Proofs.Json.Numeral
import CredentialIssuer.Proofs.Text.Segments

/-! The tokens of a printed value: what is written for each piece of it is scanned as the tokens
that the piece stands for, whatever follows. -/
namespace CredentialIssuer.Json

open Utf8 (Symbol)

section Strings

private theorem unit?_escape : ∀ n < 32, unit? (some '0') (some '0')
    (some (Char.ofNat (48 + n / 16)))
    (some (if n % 16 < 10 then Char.ofNat (48 + n % 16) else Char.ofNat (87 + n % 16))) =
      some n := by
  decide

private theorem scanString_controlEscape (text : Option (List Char)) {c : Char} (h : c.toNat < 32)
    (rest : List Symbol) :
    scanString text ((controlEscape c).map some ++ rest) = scanString (text.map (c :: ·)) rest := by
  have hhigh : isHigh c.toNat = false := by
    rw [isHigh, decide_eq_false (by omega), Bool.false_and]
  have hlow : isLow c.toNat = false := by
    rw [isLow, decide_eq_false (by omega), Bool.false_and]
  simp only [controlEscape, List.map_cons, List.map_nil, List.cons_append, List.nil_append]
  rw [scanString, unit?_escape c.toNat h]
  simp [hhigh, hlow]

/-- One character is read back from what is written for it. -/
private theorem scanString_escapeChar (text : Option (List Char)) (c : Char) (rest : List Symbol) :
    scanString text ((escapeChar c).map some ++ rest) = scanString (text.map (c :: ·)) rest := by
  have hshort (mark : Char) (hmark : mark ≠ 'u') (hescape : escaped? mark = some c) :
      scanString text ([some '\\', some mark] ++ rest) = scanString (text.map (c :: ·)) rest := by
    simp [scanString, hmark, hescape]
  unfold escapeChar
  split
  · rename_i hc
    exact hshort '"' (by decide) (by rw [hc]; rfl)
  split
  · rename_i hc
    exact hshort '\\' (by decide) (by rw [hc]; rfl)
  split
  · rename_i hc
    exact hshort 'n' (by decide) (by rw [hc]; rfl)
  split
  · rename_i hc
    exact hshort 'r' (by decide) (by rw [hc]; rfl)
  split
  · rename_i hc
    exact hshort 't' (by decide) (by rw [hc]; rfl)
  split
  · rename_i hc
    exact hshort 'b' (by decide) (by rw [hc]; rfl)
  split
  · rename_i hc
    exact hshort 'f' (by decide) (by rw [hc]; rfl)
  split
  · rename_i hc
    exact scanString_controlEscape text hc rest
  · rename_i hquote hbackslash _ _ _ _ _ hcontrol
    have hplain : ¬ (c = '\\' ∨ c < ' ') := by simp [hbackslash, hcontrol]
    simp only [List.map_cons, List.map_nil, List.cons_append, List.nil_append]
    rw [scanString, if_neg hplain]
    · exact hquote
    · exact fun _ _ _ _ _ _ => hbackslash
    · exact fun _ _ _ => hbackslash

/-- A text is read up to the quote that closes it. -/
private theorem scanString_quoted (text : String) (rest : List Symbol) :
    scanString (some []) ((text.toList.flatMap escapeChar).map some ++ some '"' :: rest) =
      some (some text, rest) := by
  have hscan (cs before : List Char) :
      scanString (some before) ((cs.flatMap escapeChar).map some ++ some '"' :: rest) =
        some (some (String.ofList (before.reverse ++ cs)), rest) := by
    induction cs generalizing before with
    | nil => simp [scanString]
    | cons c cs ih =>
      rw [List.flatMap_cons, List.map_append, List.append_assoc, scanString_escapeChar,
        Option.map_some, ih]
      simp
  simpa using hscan text.toList []

private theorem scan_quoted (found : List Token) (text : String) (rest : List Symbol) :
    scan found ((quoted text).map some ++ rest) = scan (.string (some text) :: found) rest := by
  have hstring := scanString_quoted text rest
  simp only [quoted, List.map_cons, List.map_append, List.map_nil, List.cons_append,
    List.append_assoc, List.nil_append]
  rw [scan]
  split
  · rename_i h
    rw [hstring] at h
    cases h
  · rename_i s rest' h
    obtain ⟨rfl, rfl⟩ := Prod.mk.inj (Option.some.inj (hstring.symm.trans h))
    rfl

end Strings

section Numbers

def EndsNumeral (rest : List Symbol) : Prop :=
  ∀ c, rest.head? = some c → isNumeralSymbol c = false

private theorem scan_numeral (found : List Token) {cs : List Char} {numeral : Numeral}
    (hne : cs ≠ []) (hchars : ∀ c ∈ cs, isNumeralChar c = true)
    (hread : Numeral.ofChars? cs = some numeral) {rest : List Symbol} (hrest : EndsNumeral rest) :
    scan found (cs.map some ++ rest) = scan (.number numeral.number? :: found) rest := by
  have hsymbols : ∀ c ∈ cs.map some, isNumeralSymbol c = true := by
    intro c hc
    obtain ⟨d, hd, rfl⟩ := List.mem_map.mp hc
    exact hchars d hd
  have htake : (cs.map some ++ rest).takeWhile isNumeralSymbol = cs.map some :=
    Text.takeWhile_append_of_head hsymbols hrest
  have hdrop : (cs.map some ++ rest).dropWhile isNumeralSymbol = rest :=
    Text.dropWhile_append_of_head hsymbols hrest
  have hnumber : scanNumber (cs.map some ++ rest) = some (.number numeral.number?) := by
    simp [scanNumber, htake, hread, List.filterMap_map]
  obtain ⟨d, ds, rfl⟩ := List.exists_cons_of_ne_nil hne
  have hd : isNumeralChar d = true := hchars d List.mem_cons_self
  have hother (e : Char) (he : isNumeralChar e = false) : some d ≠ some e := by
    rintro ⟨⟩
    exact absurd hd (by simp [he])
  have hblank : isBlankSymbol (some d) = false := by
    have hdiffer (e : Char) (he : isNumeralChar e = false) : d ≠ e :=
      fun h => hother e he (congrArg some h)
    simp [isBlankSymbol, hdiffer ' ' rfl, hdiffer '\t' rfl, hdiffer '\n' rfl, hdiffer '\r' rfl]
  rw [List.map_cons, List.cons_append] at hnumber hdrop ⊢
  rw [List.dropWhile_cons_of_pos (show isNumeralSymbol (some d) = true from hd)] at hdrop
  rw [scan, if_neg (by simp [hblank]), if_pos (show isNumeralSymbol (some d) = true from hd),
    hnumber, hdrop]
  · exact hother '[' rfl
  · exact hother ']' rfl
  · exact hother '\x7b' rfl
  · exact hother '\x7d' rfl
  · exact hother ',' rfl
  · exact hother ':' rfl
  · exact fun _ h _ => hother 'n' rfl h
  · exact fun _ h _ => hother 't' rfl h
  · exact fun _ h _ => hother 'f' rfl h
  · exact hother '"' rfl

private theorem scan_integer (found : List Token) {n : Int} (h : fits n = true) {rest : List Symbol}
    (hrest : EndsNumeral rest) :
    scan found ((Number.integer n).chars.map some ++ rest) =
      scan (.number (some (.integer n)) :: found) rest := by
  obtain ⟨numeral, hread, hvalue⟩ := readNumeral_integer h
  rw [scan_numeral found (integer_chars_ne_nil n)
    (fun c hc => isNumeralChar_of_mem_integer hc) hread hrest, hvalue]

end Numbers

section Values

mutual

/-- Whether a value is read as it is written: every piece of it has a value, and all its numbers
are whole and stay exact. -/
def isExact : Json → Bool
  | .number (.integer n) => fits n
  | .number (.binary64 _) => false
  | .array items => itemsExact items
  | .object members => membersExact members
  | .unreadable => false
  | .null => true
  | .bool _ => true
  | .string _ => true

def itemsExact : List Json → Bool
  | [] => true
  | item :: rest => isExact item && itemsExact rest

def membersExact : List (String × Json) → Bool
  | [] => true
  | (_, value) :: rest => isExact value && membersExact rest

end

mutual

def tokens : Json → List Token
  | .null => [.null]
  | .bool b => [.bool b]
  | .number n => [.number (some n)]
  | .string s => [.string (some s)]
  | .array [] => [.beginArray, .endArray]
  | .array (item :: items) => .beginArray :: (tokens item ++ itemTokens items)
  | .object [] => [.beginObject, .endObject]
  | .object ((name, value) :: members) =>
    .beginObject :: .string (some name) :: .colon :: (tokens value ++ memberTokens members)
  | .unreadable => []

def itemTokens : List Json → List Token
  | [] => [.endArray]
  | item :: items => .comma :: (tokens item ++ itemTokens items)

def memberTokens : List (String × Json) → List Token
  | [] => [.endObject]
  | (name, value) :: members =>
    .comma :: .string (some name) :: .colon :: (tokens value ++ memberTokens members)

end

private theorem endsNumeral_cons {c : Char} (h : isNumeralChar c = false) (rest : List Symbol) :
    EndsNumeral (some c :: rest) := by
  intro d hd
  obtain rfl := Option.some.inj hd
  exact h

private theorem endsNumeral_itemChars (items : List Json) (rest : List Symbol) :
    EndsNumeral ((itemChars items).map some ++ rest) := by
  cases items with
  | nil => exact endsNumeral_cons rfl _
  | cons item items => exact endsNumeral_cons rfl _

private theorem endsNumeral_memberChars (members : Members) (rest : List Symbol) :
    EndsNumeral ((memberChars members).map some ++ rest) := by
  cases members with
  | nil => exact endsNumeral_cons rfl _
  | cons member members => exact endsNumeral_cons rfl _

mutual

/-- The text of a value is scanned as its tokens. -/
theorem scan_chars (value : Json) (h : value.isExact = true) (found : List Token)
    {rest : List Symbol} (hrest : EndsNumeral rest) :
    scan found (value.chars.map some ++ rest) = scan (value.tokens.reverse ++ found) rest := by
  match value with
  | .null => simp [chars, tokens, scan]
  | .bool true => simp [chars, tokens, scan]
  | .bool false => simp [chars, tokens, scan]
  | .number (.integer n) => exact scan_integer found h hrest
  | .number (.binary64 x) => cases h
  | .string s => exact scan_quoted found s rest
  | .array [] => simp [chars, tokens, scan]
  | .array (item :: items) =>
    obtain ⟨hitem, hitems⟩ := Bool.and_eq_true_iff.mp h
    simp only [chars, List.map_cons, List.map_append, List.cons_append, List.append_assoc]
    rw [scan, scan_chars item hitem _ (endsNumeral_itemChars items rest),
      scan_itemChars items hitems]
    simp [tokens]
  | .object [] => simp [chars, tokens, scan]
  | .object ((name, value) :: members) =>
    obtain ⟨hvalue, hmembers⟩ := Bool.and_eq_true_iff.mp h
    simp only [chars, List.map_cons, List.map_append, List.cons_append, List.append_assoc]
    rw [scan, scan_quoted, scan, scan_chars value hvalue _ (endsNumeral_memberChars members rest),
      scan_memberChars members hmembers]
    simp [tokens]
  | .unreadable => cases h

private theorem scan_itemChars (items : List Json) (h : itemsExact items = true)
    (found : List Token) (rest : List Symbol) :
    scan found ((itemChars items).map some ++ rest) =
      scan ((itemTokens items).reverse ++ found) rest := by
  match items with
  | [] => simp [itemChars, itemTokens, scan]
  | item :: items =>
    obtain ⟨hitem, hitems⟩ := Bool.and_eq_true_iff.mp h
    simp only [itemChars, List.map_cons, List.map_append, List.cons_append, List.append_assoc]
    rw [scan, scan_chars item hitem _ (endsNumeral_itemChars items rest),
      scan_itemChars items hitems]
    simp [itemTokens]

private theorem scan_memberChars (members : Members) (h : membersExact members = true)
    (found : List Token) (rest : List Symbol) :
    scan found ((memberChars members).map some ++ rest) =
      scan ((memberTokens members).reverse ++ found) rest := by
  match members with
  | [] => simp [memberChars, memberTokens, scan]
  | (name, value) :: members =>
    obtain ⟨hvalue, hmembers⟩ := Bool.and_eq_true_iff.mp h
    simp only [memberChars, List.map_cons, List.map_append, List.cons_append, List.append_assoc]
    rw [scan, scan_quoted, scan, scan_chars value hvalue _ (endsNumeral_memberChars members rest),
      scan_memberChars members hmembers]
    simp [memberTokens]

end

/-- An exact value is scanned as the tokens that it is written with. -/
theorem tokens?_chars {value : Json} (h : value.isExact = true) :
    tokens? (value.chars.map some) = some value.tokens := by
  have hend : EndsNumeral [] := by
    intro c hc
    cases hc
  have hscan := scan_chars value h [] hend
  rw [List.append_nil, List.append_nil] at hscan
  rw [tokens?, hscan, scan, List.reverse_reverse]

end Values

end CredentialIssuer.Json
