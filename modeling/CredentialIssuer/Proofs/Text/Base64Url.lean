import CredentialIssuer.Proofs.Result
import CredentialIssuer.Proofs.Text.Utf8
import CredentialIssuer.Text.Base64Url
import CredentialIssuer.Text.Segments

/-! Bytes are read back from their digits and from no other text, and no digit is a dot or a
blank. -/
namespace CredentialIssuer.Base64Url

private theorem value?_digit : ∀ n < 64, value? (digit n) = some n := by decide

private theorem digit_spec : ∀ n < 64, digit n ≠ '.' ∧ (digit n).toNat < 128 := by decide

private def values : Bytes → List Nat
  | [] => []
  | [a] => [a.toNat / 4, a.toNat % 4 * 16]
  | [a, b] => [a.toNat / 4, a.toNat % 4 * 16 + b.toNat / 16, b.toNat % 16 * 4]
  | a :: b :: c :: rest =>
    a.toNat / 4 :: (a.toNat % 4 * 16 + b.toNat / 16) :: (b.toNat % 16 * 4 + c.toNat / 64)
      :: c.toNat % 64 :: values rest

private theorem digits_eq (bytes : Bytes) : digits bytes = (values bytes).map digit := by
  induction bytes using digits.induct with
  | case1 => rfl
  | case2 a => rfl
  | case3 a b => rfl
  | case4 a b c rest ih => simp [digits, values, ih]

private theorem values_lt (bytes : Bytes) : ∀ n ∈ values bytes, n < 64 := by
  induction bytes using digits.induct with
  | case1 => simp [values]
  | case2 a =>
    have ha := a.toNat_lt
    simp only [values, List.mem_cons, List.not_mem_nil, or_false]
    rintro n (rfl | rfl) <;> omega
  | case3 a b =>
    have ha := a.toNat_lt
    have hb := b.toNat_lt
    simp only [values, List.mem_cons, List.not_mem_nil, or_false]
    rintro n (rfl | rfl | rfl) <;> omega
  | case4 a b c rest ih =>
    have ha := a.toNat_lt
    have hb := b.toNat_lt
    have hc := c.toNat_lt
    simp only [values, List.mem_cons]
    rintro n (rfl | rfl | rfl | rfl | h)
    · omega
    · omega
    · omega
    · omega
    · exact ih n h

private theorem ofNat_eq {b : UInt8} {n : Nat} (h : n = b.toNat) : UInt8.ofNat n = b := by
  rw [h, UInt8.ofNat_toNat]

private theorem ofValues?_values (bytes : Bytes) : ofValues? (values bytes) = some bytes := by
  induction bytes using digits.induct with
  | case1 => rfl
  | case2 a =>
    have hfirst : first (a.toNat / 4) (a.toNat % 4 * 16) = a := ofNat_eq (by omega)
    have hend : a.toNat % 4 * 16 % 16 = 0 := by omega
    simp [values, ofValues?, hfirst, hend]
  | case3 a b =>
    have hb := b.toNat_lt
    have hfirst : first (a.toNat / 4) (a.toNat % 4 * 16 + b.toNat / 16) = a := ofNat_eq (by omega)
    have hsecond : second (a.toNat % 4 * 16 + b.toNat / 16) (b.toNat % 16 * 4) = b :=
      ofNat_eq (by omega)
    have hend : b.toNat % 16 * 4 % 4 = 0 := by omega
    simp [values, ofValues?, hfirst, hsecond, hend]
  | case4 a b c rest ih =>
    have hb := b.toNat_lt
    have hc := c.toNat_lt
    have hfirst : first (a.toNat / 4) (a.toNat % 4 * 16 + b.toNat / 16) = a := ofNat_eq (by omega)
    have hsecond : second (a.toNat % 4 * 16 + b.toNat / 16) (b.toNat % 16 * 4 + c.toNat / 64) = b :=
      ofNat_eq (by omega)
    have hthird : third (b.toNat % 16 * 4 + c.toNat / 64) (c.toNat % 64) = c := ofNat_eq (by omega)
    simp [values, ofValues?, hfirst, hsecond, hthird, ih]

/-- Bytes are read back from their digits. -/
theorem decode?_encode (bytes : Bytes) : decode? (encode bytes) = some bytes := by
  have hvalues : ((values bytes).map digit).mapM value? = some (values bytes) :=
    mapM_map_eq_some fun n hn => value?_digit n (values_lt bytes n hn)
  rw [decode?, encode, String.toList_ofList, digits_eq, hvalues]
  exact ofValues?_values bytes

theorem encode_ne_nil {bytes : Bytes} (h : bytes ≠ []) : (encode bytes).toList ≠ [] := by
  intro hnil
  have hempty : encode bytes = "" := String.toList_eq_nil_iff.mp hnil
  have hdecode := decode?_encode bytes
  rw [hempty] at hdecode
  exact h (Option.some.inj hdecode).symm

/-- Digits are ASCII and no dots. -/
theorem mem_encode {bytes : Bytes} {c : Char} (h : c ∈ (encode bytes).toList) :
    c ≠ '.' ∧ c.toNat < 128 := by
  rw [encode, String.toList_ofList, digits_eq] at h
  obtain ⟨n, hn, rfl⟩ := List.mem_map.mp h
  exact digit_spec n (values_lt bytes n hn)

theorem dot_not_mem_encode (bytes : Bytes) : '.' ∉ (encode bytes).toList :=
  fun h => (mem_encode h).1 rfl

/-- Only the digits themselves have a value. -/
private theorem digit_of_value? {c : Char} {n : Nat} (h : value? c = some n) :
    n < 64 ∧ digit n = c := by
  have hle (a b : Char) : a ≤ b ↔ a.toNat ≤ b.toNat := Char.le_def.trans UInt32.le_iff_toNat_le
  have hof {m : Nat} (hm : m = c.toNat) : Char.ofNat m = c := by rw [hm, Char.ofNat_toNat]
  simp only [value?, hle, Char.reduceToNat] at h
  split at h
  · obtain rfl := Option.some.inj h
    rw [digit, if_pos (by omega)]
    exact ⟨by omega, hof (by omega)⟩
  · split at h
    · obtain rfl := Option.some.inj h
      rw [digit, if_neg (by omega), if_pos (by omega)]
      exact ⟨by omega, hof (by omega)⟩
    · split at h
      · obtain rfl := Option.some.inj h
        rw [digit, if_neg (by omega), if_neg (by omega), if_pos (by omega)]
        exact ⟨by omega, hof (by omega)⟩
      · split at h
        · rename_i hc
          obtain rfl := Option.some.inj h
          exact ⟨by decide, hc.symm⟩
        · split at h
          · rename_i hc
            obtain rfl := Option.some.inj h
            exact ⟨by decide, hc.symm⟩
          · cases h

private theorem digits_of_values {cs : List Char} {ns : List Nat} (h : cs.mapM value? = some ns) :
    (∀ n ∈ ns, n < 64) ∧ ns.map digit = cs := by
  induction cs generalizing ns with
  | nil =>
    obtain rfl := Option.some.inj h
    exact ⟨by simp, rfl⟩
  | cons c cs ih =>
    rw [List.mapM_cons] at h
    obtain ⟨n, hn, h⟩ := Option.bind_eq_some_iff.mp h
    obtain ⟨rest, hrest, h⟩ := Option.bind_eq_some_iff.mp h
    obtain rfl := Option.some.inj h
    obtain ⟨hlt, hdigit⟩ := digit_of_value? hn
    obtain ⟨hlts, hdigits⟩ := ih hrest
    refine ⟨?_, by rw [List.map_cons, hdigit, hdigits]⟩
    intro m hm
    rcases List.mem_cons.mp hm with rfl | hm
    · exact hlt
    · exact hlts m hm

private theorem toNat_first {a b : Nat} (ha : a < 64) (hb : b < 64) :
    (first a b).toNat = a * 4 + b / 16 := by
  rw [first, UInt8.toNat_ofNat']
  omega

private theorem toNat_second {b c : Nat} (hc : c < 64) :
    (second b c).toNat = b % 16 * 16 + c / 4 := by
  rw [second, UInt8.toNat_ofNat']
  omega

private theorem toNat_third {c d : Nat} (hd : d < 64) : (third c d).toNat = c % 4 * 64 + d := by
  rw [third, UInt8.toNat_ofNat']
  omega

private theorem values_of_ofValues? {ns : List Nat} {bytes : Bytes} (hlt : ∀ n ∈ ns, n < 64)
    (h : ofValues? ns = some bytes) : values bytes = ns := by
  induction ns using ofValues?.induct generalizing bytes with
  | case1 =>
    obtain rfl := Option.some.inj h
    rfl
  | case2 => cases h
  | case3 a b hb =>
    obtain rfl : [first a b] = bytes := by simpa [ofValues?, hb] using h
    have ha := hlt a (by simp)
    have hb := hlt b (by simp)
    rw [values, toNat_first ha hb]
    congr 2
    · omega
    · omega
  | case4 a b hb => simp [ofValues?, hb] at h
  | case5 a b c hc =>
    obtain rfl : [first a b, second b c] = bytes := by simpa [ofValues?, hc] using h
    have ha := hlt a (by simp)
    have hb := hlt b (by simp)
    have hc := hlt c (by simp)
    rw [values, toNat_first ha hb, toNat_second hc]
    congr 3
    · omega
    · omega
    · omega
  | case6 a b c hc => simp [ofValues?, hc] at h
  | case7 a b c d rest ih =>
    obtain ⟨more, hmore, rfl⟩ := Option.map_eq_some_iff.mp h
    have ha := hlt a (by simp)
    have hb := hlt b (by simp)
    have hc := hlt c (by simp)
    have hd := hlt d (by simp)
    have hrest := ih (fun n hn => hlt n (by simp [hn])) hmore
    rw [values, toNat_first ha hb, toNat_second hc, toNat_third hd, hrest]
    congr 4
    · omega
    · omega
    · omega
    · omega

/-- A byte string has one text, and no other is read. -/
theorem decode?_eq_some_iff {text : String} {bytes : Bytes} :
    decode? text = some bytes ↔ text = encode bytes := by
  constructor
  · intro h
    obtain ⟨ns, hns, h⟩ := Option.bind_eq_some_iff.mp h
    obtain ⟨hlt, hdigits⟩ := digits_of_values hns
    rw [encode, digits_eq, values_of_ofValues? hlt h, hdigits, String.ofList_toList]
  · rintro rfl
    exact decode?_encode bytes

section Strict

def alphabet : List Char :=
  "ABCDEFGHIJKLMNOPQRSTUVWXYZabcdefghijklmnopqrstuvwxyz0123456789-_".toList

/-- Groups of four, then two or three digits or none, with no bits in the last digit that belong to
no byte. -/
structure Complete (ns : List Nat) : Prop where
  length : ns.length % 4 ≠ 1
  two : ∀ n ∈ ns.getLast?, ns.length % 4 = 2 → n % 16 = 0
  three : ∀ n ∈ ns.getLast?, ns.length % 4 = 3 → n % 4 = 0

/-- Texts of digits alone that stand for whole bytes and for nothing else. -/
structure IsStrict (text : String) : Prop where
  digits : ∀ c ∈ text.toList, c ∈ alphabet
  complete : Complete (text.toList.map alphabet.idxOf)

private theorem alphabet_eq : alphabet = (List.range 64).map digit := by decide +kernel

private theorem digit_mem_alphabet :
    ∀ n < 64, digit n ∈ alphabet ∧ alphabet.idxOf (digit n) = n := by
  decide +kernel

private theorem value?_of_mem_alphabet {c : Char} (h : c ∈ alphabet) :
    value? c = some (alphabet.idxOf c) := by
  rw [alphabet_eq] at h
  obtain ⟨n, hn, rfl⟩ := List.mem_map.mp h
  rw [List.mem_range] at hn
  rw [value?_digit n hn, (digit_mem_alphabet n hn).2]

/-- A group of four in front changes nothing. -/
private theorem complete_cons_iff {a b c d : Nat} {ns : List Nat} :
    Complete (a :: b :: c :: d :: ns) ↔ Complete ns := by
  have hlength : (a :: b :: c :: d :: ns).length % 4 = ns.length % 4 := by
    simp only [List.length_cons]
    omega
  cases ns with
  | nil => exact iff_of_true ⟨by simp, by simp, by simp⟩ ⟨by simp, by simp, by simp⟩
  | cons n ns =>
    have hlast : (a :: b :: c :: d :: n :: ns).getLast? = (n :: ns).getLast? := by
      simp only [List.getLast?_cons_cons]
    constructor
    · intro h
      exact ⟨hlength ▸ h.length, hlength ▸ hlast ▸ h.two, hlength ▸ hlast ▸ h.three⟩
    · intro h
      exact ⟨hlength.symm ▸ h.length, by rw [hlength, hlast]; exact h.two,
        by rw [hlength, hlast]; exact h.three⟩

private theorem complete_values (bytes : Bytes) : Complete (values bytes) := by
  induction bytes using digits.induct with
  | case1 => exact ⟨by simp [values], by simp [values], by simp [values]⟩
  | case2 a => exact ⟨by simp [values], by simp [values], by simp [values]⟩
  | case3 a b => exact ⟨by simp [values], by simp [values], by simp [values]⟩
  | case4 a b c rest ih => exact complete_cons_iff.mpr ih

private theorem exists_ofValues? {ns : List Nat} (h : Complete ns) :
    ∃ bytes, ofValues? ns = some bytes := by
  induction ns using ofValues?.induct with
  | case1 => exact ⟨[], rfl⟩
  | case2 a => exact absurd rfl h.length
  | case3 a b hb => exact ⟨_, if_pos hb⟩
  | case4 a b hb => exact absurd (h.two b rfl rfl) hb
  | case5 a b c hc => exact ⟨_, if_pos hc⟩
  | case6 a b c hc => exact absurd (h.three c rfl rfl) hc
  | case7 a b c d rest ih =>
    obtain ⟨bytes, hbytes⟩ := ih (complete_cons_iff.mp h)
    exact ⟨_, by rw [ofValues?, hbytes, Option.map_some]⟩

/-- The strict texts are those that byte strings are written as. -/
theorem isStrict_iff {text : String} : IsStrict text ↔ ∃ bytes, text = encode bytes := by
  constructor
  · intro h
    obtain ⟨bytes, hbytes⟩ := exists_ofValues? h.complete
    have hvalues : text.toList.mapM value? = some (text.toList.map alphabet.idxOf) :=
      mapM_eq_some_map fun c hc => value?_of_mem_alphabet (h.digits c hc)
    refine ⟨bytes, decode?_eq_some_iff.mp ?_⟩
    rw [decode?, hvalues, Option.bind_some, hbytes]
  · rintro ⟨bytes, rfl⟩
    have hchars : (encode bytes).toList = (values bytes).map digit := by
      rw [encode, String.toList_ofList, digits_eq]
    have hmem (n : Nat) (hn : n ∈ values bytes) := digit_mem_alphabet n (values_lt bytes n hn)
    refine ⟨?_, ?_⟩
    · intro c hc
      rw [hchars] at hc
      obtain ⟨n, hn, rfl⟩ := List.mem_map.mp hc
      exact (hmem n hn).1
    · have hindices : ((values bytes).map digit).map alphabet.idxOf = values bytes := by
        rw [List.map_map]
        exact (List.map_congr_left fun n hn => (hmem n hn).2).trans (List.map_id _)
      rw [hchars, hindices]
      exact complete_values bytes

/-- No digit is a blank. -/
theorem isBlank_of_mem_encode {bytes : Bytes} {c : Char} (h : c ∈ (encode bytes).toList) :
    Text.isBlank c = false := by
  have hdigits : (alphabet.all fun d => !Text.isBlank d) = true := by decide +kernel
  have hdigit : c ∈ alphabet := (isStrict_iff.mpr ⟨bytes, rfl⟩).digits c h
  simpa using List.all_eq_true.mp hdigits c hdigit

end Strict

end CredentialIssuer.Base64Url
