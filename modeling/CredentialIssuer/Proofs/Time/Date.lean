import CredentialIssuer.Proofs.Text.Digits
import CredentialIssuer.Time.Date

/-! A date is read back from its text, on either side of the year 0. -/
namespace CredentialIssuer.Date

private theorem ofUnsigned?_padded (negative : Bool) {year month day : Nat} (hyear : year < 10 ^ 4)
    (hmonth : month < 10 ^ 2) (hday : day < 10 ^ 2) :
    ofUnsigned? negative (Text.padded 4 year ++ '-' :: (Text.padded 2 month ++
        '-' :: Text.padded 2 day)) =
      ofParts? (if negative then -(year : Int) else year) month day := by
  have hlast : Text.takeDigits? 2 (Text.padded 2 day) = some (day, []) := by
    simpa using Text.takeDigits?_padded hday []
  simp [ofUnsigned?, Text.takeDigits?_padded hyear, Text.takeDigits?_padded hmonth, hlast]

private theorem daysInMonth_le (year : Int) (month : Nat) : daysInMonth year month ≤ 31 := by
  unfold daysInMonth
  split
  · split <;> decide
  · split <;> decide

private theorem chars_of_unsigned {year : Nat} (rest : List Char) :
    ofChars? (Text.padded 4 year ++ rest) = ofUnsigned? false (Text.padded 4 year ++ rest) := by
  have hne : Text.padded 4 year ≠ [] := by
    rw [← List.length_pos_iff, Text.length_padded]
    decide
  obtain ⟨d, ds, hd⟩ := List.exists_cons_of_ne_nil hne
  have hdigit : Text.isDigit d = true :=
    Text.isDigit_of_mem_padded (show d ∈ Text.padded 4 year from hd ▸ List.mem_cons_self)
  have hminus : d ≠ '-' := by
    rintro rfl
    exact absurd hdigit (by decide)
  have hplus : d ≠ '+' := by
    rintro rfl
    exact absurd hdigit (by decide)
  rw [hd]
  simp [ofChars?, hminus, hplus]

/-- Every date of the calendar is read back from its text. -/
theorem read?_print (date : Date) : read? date.print = some date := by
  obtain ⟨year, month, day, hvalid⟩ := date
  have hbounds := hvalid
  simp only [isValid, Bool.and_eq_true, decide_eq_true_eq] at hbounds
  obtain ⟨⟨⟨⟨⟨hlow, hhigh⟩, -⟩, hmonth⟩, -⟩, hday⟩ := hbounds
  have hdays := daysInMonth_le year month
  have hparts : ofParts? year month day = some ⟨year, month, day, hvalid⟩ := dif_pos hvalid
  have hread (negative : Bool) := ofUnsigned?_padded negative (show year.natAbs < 10 ^ 4 by omega)
    (show month < 10 ^ 2 by omega) (show day < 10 ^ 2 by omega)
  rw [read?, print, String.toList_ofList, chars]
  simp only [List.append_assoc, List.cons_append]
  split
  · rename_i hneg
    rw [List.singleton_append, ofChars?, hread, if_pos rfl, ← hparts]
    congr 1
    omega
  · rename_i hnonneg
    rw [List.nil_append, chars_of_unsigned, hread, if_neg (by decide), ← hparts]
    congr 1
    omega

end CredentialIssuer.Date
