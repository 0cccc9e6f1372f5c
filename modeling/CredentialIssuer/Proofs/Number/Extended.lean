import CredentialIssuer.Number.Extended
import CredentialIssuer.Proofs.Text.Digits
import CredentialIssuer.Proofs.Text.Segments

/-! Which texts are read as numbers, and that no number is written as nothing. -/
namespace CredentialIssuer

namespace Binary64

private theorem positional_ne_nil {digits : List Char} (h : digits ≠ []) (last : Int) :
    (positional digits last).1 ≠ [] := by
  unfold positional
  split
  · simp [h]
  · dsimp only
    split
    · rename_i hlt
      rw [← List.length_pos_iff, List.length_take]
      omega
    · simp

private theorem plainText_ne_empty (x : Binary64) : x.plainText ≠ "" := by
  have hdigits : (toString x.shortest.1).toList ≠ [] := by
    rw [Nat.toString_eq_repr, Nat.toList_repr]
    exact Nat.toDigits_ne_nil
  have hwhole := positional_ne_nil hdigits x.shortest.2
  simp only [plainText, ne_eq, String.ofList_eq_empty_iff, List.append_eq_nil_iff, not_and]
  intro h
  exact absurd h.2 hwhole

end Binary64

namespace Extended

open Text

def IsSign (cs : List Char) : Prop := cs = [] ∨ cs = ['+'] ∨ cs = ['-']

def signValue (sign : List Char) : Int := if sign = ['-'] then -1 else 1

/-- What is read as an infinity or as no number. -/
def IsName (cs : List Char) : Prop :=
  String.ofList (cs.map Char.toLower) ∈ ["inf", "infinity", "nan"]

def IsExponent (cs : List Char) : Prop :=
  cs = [] ∨ ∃ mark sign digits, (mark = 'e' ∨ mark = 'E') ∧ IsSign sign ∧ digits ≠ [] ∧
    AllDigits digits ∧ cs = mark :: (sign ++ digits)

def IsFraction (cs places : List Char) : Prop := cs = [] ∧ places = [] ∨ cs = '.' :: places

/-- Digits before or after a point, and a power of ten. -/
def IsDecimal (cs : List Char) : Prop :=
  ∃ whole fraction places tail, AllDigits whole ∧ IsFraction fraction places ∧ AllDigits places ∧
    (whole ≠ [] ∨ places ≠ []) ∧ IsExponent tail ∧ cs = whole ++ (fraction ++ tail)

def IsNumeral (cs : List Char) : Prop :=
  ∃ sign body, IsSign sign ∧ (IsName body ∨ IsDecimal body) ∧ cs = sign ++ body

def Unsigned (cs : List Char) : Prop := ∀ c ∈ cs.head?, c ≠ '+' ∧ c ≠ '-'

/-- A sign is taken off where one stands, and the rest is left as it is. -/
theorem signed?_append {sign body : List Char} (hsign : IsSign sign) (hbody : Unsigned body) :
    signed? (sign ++ body) = some (signValue sign, body) := by
  rcases hsign with rfl | rfl | rfl
  · cases body with
    | nil => rfl
    | cons c body =>
      obtain ⟨hplus, hminus⟩ := hbody c rfl
      simp [signed?, signValue, hplus, hminus]
  · rfl
  · rfl

/-- What was taken off is a sign. -/
theorem exists_sign {cs body : List Char} {k : Int} (h : signed? cs = some (k, body)) :
    ∃ sign, IsSign sign ∧ cs = sign ++ body ∧ k = signValue sign := by
  unfold signed? at h
  split at h
  · obtain ⟨rfl, rfl⟩ := Prod.mk.inj (Option.some.inj h)
    exact ⟨['+'], .inr (.inl rfl), rfl, rfl⟩
  · obtain ⟨rfl, rfl⟩ := Prod.mk.inj (Option.some.inj h)
    exact ⟨['-'], .inr (.inr rfl), rfl, rfl⟩
  · obtain ⟨rfl, rfl⟩ := Prod.mk.inj (Option.some.inj h)
    exact ⟨[], .inl rfl, rfl, rfl⟩

theorem unsigned_of_allDigits {cs : List Char} (h : AllDigits cs) : Unsigned cs := by
  intro c hc
  have hdigit : isDigit c = true := h c (List.mem_of_mem_head? hc)
  constructor
  · rintro rfl
    cases hdigit
  · rintro rfl
    cases hdigit

/-- What is read as an exponent. -/
theorem exponent?_isSome_iff {cs : List Char} : (exponent? cs).isSome ↔ IsExponent cs := by
  constructor
  · intro h
    unfold exponent? at h
    split at h
    · exact .inl rfl
    · rename_i mark rest
      split at h
      · rename_i hmark
        obtain ⟨value, hvalue⟩ := Option.isSome_iff_exists.mp h
        obtain ⟨⟨k, digits⟩, hsigned, hvalue⟩ := Option.bind_eq_some_iff.mp hvalue
        obtain ⟨n, hdigits, -⟩ := Option.bind_eq_some_iff.mp hvalue
        obtain ⟨hne, hall, -⟩ := natural?_eq_some_iff.mp hdigits
        obtain ⟨sign, hsign, rfl, -⟩ := exists_sign hsigned
        exact .inr ⟨mark, sign, digits, hmark, hsign, hne, hall, rfl⟩
      · cases h
  · rintro (rfl | ⟨mark, sign, digits, hmark, hsign, hne, hall, rfl⟩)
    · rfl
    · have hdigits := natural?_eq_some_iff.mpr ⟨hne, hall, rfl⟩
      simp [exponent?, hmark, signed?_append hsign (unsigned_of_allDigits hall), hdigits]

/-- A power of ten begins with its mark. -/
private theorem IsExponent.head {cs : List Char} (h : IsExponent cs) :
    ∀ c ∈ cs.head?, isDigit c = false ∧ c ≠ '.' := by
  rintro c hc
  rcases h with rfl | ⟨mark, sign, digits, hmark, -, -, -, rfl⟩
  · cases hc
  · obtain rfl := Option.some.inj hc
    rcases hmark with rfl | rfl <;> decide

private theorem splitPlaces_append {fraction places tail : List Char}
    (hfraction : IsFraction fraction places)
    (hplaces : AllDigits places) (htail : IsExponent tail) :
    splitPlaces (fraction ++ tail) = (places, tail) := by
  have hhead : ∀ c ∈ tail.head?, isDigit c = false := fun c hc => (htail.head c hc).1
  rcases hfraction with ⟨rfl, rfl⟩ | rfl
  · cases tail with
    | nil => rfl
    | cons c tail =>
      have hpoint : c ≠ '.' := (htail.head c rfl).2
      simp [splitPlaces, hpoint]
  · rw [List.cons_append, splitPlaces, takeWhile_append_of_head hplaces hhead,
      dropWhile_append_of_head hplaces hhead]

private theorem exists_fraction {cs places tail : List Char} (h : splitPlaces cs = (places, tail)) :
    ∃ fraction, IsFraction fraction places ∧ AllDigits places ∧ cs = fraction ++ tail := by
  unfold splitPlaces at h
  split at h
  · rename_i rest
    obtain ⟨rfl, rfl⟩ := Prod.mk.inj h
    refine ⟨_, .inr rfl, fun c hc => List.mem_takeWhile_imp hc, ?_⟩
    rw [List.cons_append, List.takeWhile_append_dropWhile]
  · obtain ⟨rfl, rfl⟩ := Prod.mk.inj h
    exact ⟨[], .inl ⟨rfl, rfl⟩, nofun, rfl⟩

/-- What is read as a number without a sign. -/
theorem unsigned?_isSome_iff {negative : Bool} {cs : List Char} :
    (unsigned? negative cs).isSome ↔ IsDecimal cs := by
  constructor
  · intro h
    obtain ⟨⟨places, tail⟩, hsplit⟩ : ∃ p, splitPlaces (cs.dropWhile isDigit) = p := ⟨_, rfl⟩
    obtain ⟨fraction, hfraction, hplaces, hrest⟩ := exists_fraction hsplit
    rw [unsigned?, hsplit] at h
    simp only [Bool.and_eq_true, List.isEmpty_iff] at h
    split at h
    · cases h
    · rename_i hdigits
      rw [Option.isSome_map, exponent?_isSome_iff] at h
      refine ⟨cs.takeWhile isDigit, fraction, places, tail,
        fun c hc => List.mem_takeWhile_imp hc, hfraction, hplaces, ?_, h, ?_⟩
      · exact not_and_or.mp hdigits
      · rw [← hrest, List.takeWhile_append_dropWhile]
  · rintro ⟨whole, fraction, places, tail, hwhole, hfraction, hplaces, hne, htail, rfl⟩
    have hhead : ∀ c ∈ (fraction ++ tail).head?, isDigit c = false := by
      intro c hc
      rcases hfraction with ⟨rfl, -⟩ | rfl
      · exact (htail.head c hc).1
      · obtain rfl := Option.some.inj hc
        rfl
    rw [unsigned?, takeWhile_append_of_head hwhole hhead, dropWhile_append_of_head hwhole hhead,
      splitPlaces_append hfraction hplaces htail]
    simp only [Bool.and_eq_true, List.isEmpty_iff]
    rw [if_neg (not_and_or.mpr hne), Option.isSome_map, exponent?_isSome_iff]
    exact htail

private theorem named?_isSome_iff {negative : Bool} {name : String} :
    (named? negative name).isSome ↔ name ∈ ["inf", "infinity", "nan"] := by
  unfold named?
  split
  · rename_i h
    rcases h with rfl | rfl <;> simp
  · split
    · rename_i h
      simp [h]
    · rename_i hinf hnan
      simp [not_or.mp hinf, hnan]

private theorem IsName.unsigned {cs : List Char} (h : IsName cs) : Unsigned cs := by
  intro c hc
  obtain ⟨rest, rfl⟩ := List.head?_eq_some_iff.mp hc
  have hfirst : c.toLower = 'i' ∨ c.toLower = 'n' := by
    rw [IsName, List.map_cons] at h
    simp only [List.mem_cons, List.not_mem_nil, or_false] at h
    rcases h with h | h | h
    · exact .inl (List.cons.inj (String.ofList_injective h)).1
    · exact .inl (List.cons.inj (String.ofList_injective h)).1
    · exact .inr (List.cons.inj (String.ofList_injective h)).1
  constructor
  · rintro rfl
    revert hfirst
    decide
  · rintro rfl
    revert hfirst
    decide

private theorem IsDecimal.unsigned {cs : List Char} (h : IsDecimal cs) : Unsigned cs := by
  obtain ⟨whole, fraction, places, tail, hwhole, hfraction, -, hne, -, rfl⟩ := h
  cases whole with
  | cons c whole => exact fun d hd => unsigned_of_allDigits hwhole d hd
  | nil =>
    rcases hfraction with ⟨-, rfl⟩ | rfl
    · simp at hne
    · rintro c hc
      obtain rfl := Option.some.inj hc
      decide

/-- A text is read as a number exactly if it is written like one. -/
theorem ofChars?_isSome_iff {cs : List Char} : (ofChars? cs).isSome ↔ IsNumeral cs := by
  have heq {k : Int} {body : List Char} (h : signed? cs = some (k, body)) :
      (ofChars? cs).isSome ↔ IsName body ∨ IsDecimal body := by
    rw [ofChars?, h, Option.bind_eq_bind, Option.bind_some, Option.isSome_or, Bool.or_eq_true,
      named?_isSome_iff, unsigned?_isSome_iff]
    rfl
  constructor
  · intro h
    obtain ⟨x, hx⟩ := Option.isSome_iff_exists.mp h
    obtain ⟨⟨k, body⟩, hsigned, -⟩ := Option.bind_eq_some_iff.mp hx
    obtain ⟨sign, hsign, rfl, -⟩ := exists_sign hsigned
    exact ⟨sign, body, hsign, (heq hsigned).mp h, rfl⟩
  · rintro ⟨sign, body, hsign, hbody, rfl⟩
    have hunsigned : Unsigned body := hbody.elim IsName.unsigned IsDecimal.unsigned
    exact (heq (signed?_append hsign hunsigned)).mpr hbody

theorem plainText_ne_empty (x : Extended) : x.plainText ≠ "" := by
  cases x with
  | finite x => exact x.plainText_ne_empty
  | infinite negative => cases negative <;> decide
  | notANumber => decide

end Extended

end CredentialIssuer
