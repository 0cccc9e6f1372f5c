import CredentialIssuer.Proofs.Text.Percent

/-! Form encoding is undone by reading: pairs that are appended to a query are read after those
that it had, with the very names and values they were given. -/
namespace CredentialIssuer.Form

def pairs (query : List Char) : List (String × String) :=
  decode (Utf8.encode (String.ofList query))

private def unplus (b : UInt8) : UInt8 := if b = 43 then 32 else b

/-- A character that is left as it is has no other meaning in a form. -/
theorem isPlain_spec {c : Char} (h : isPlain c = true) :
    c.toNat < 128 ∧ c ≠ '+' ∧ c ≠ '%' ∧ c ≠ '&' ∧ c ≠ '=' := by
  have hne (d : Char) (hd : isPlain d = false) : c ≠ d := by
    rintro rfl
    simp [h] at hd
  refine ⟨?_, hne _ (by decide), hne _ (by decide), hne _ (by decide), hne _ (by decide)⟩
  simp only [isPlain, Bool.or_eq_true, beq_iff_eq] at h
  rcases h with (((h | rfl) | rfl) | rfl) | rfl
  · have := Text.isAlphanum_iff.mp h
    omega
  all_goals decide

private theorem decode_unplus_encodeByte (b : UInt8) (rest : Bytes) :
    Percent.decode ((Utf8.encode (String.ofList (Percent.encodeByte b)) ++ rest).map unplus) =
      b :: Percent.decode (rest.map unplus) := by
  obtain ⟨high, low, he, hp, lp, hv, lv⟩ := Percent.encode_encodeByte b
  have hu (d : UInt8) (h : d ≠ 43) : unplus d = d := if_neg h
  have hb := b.toNat_lt
  rw [he]
  simp only [List.cons_append, List.nil_append, List.map_cons, hu 37 (by decide), hu _ hp, hu _ lp]
  rw [Percent.decode_escape hv lv, show 16 * (b.toNat / 16) + b.toNat % 16 = b.toNat by omega]
  simp

private theorem decode_unplus_encodeBytes (bytes rest : Bytes) :
    Percent.decode ((Utf8.encode (String.ofList (bytes.flatMap Percent.encodeByte)) ++ rest).map
      unplus) = bytes ++ Percent.decode (rest.map unplus) := by
  induction bytes with
  | nil => rfl
  | cons b bytes ih =>
    rw [List.flatMap_cons, Utf8.encode_ofList_append, List.append_assoc, decode_unplus_encodeByte,
      ih, List.cons_append]

private theorem decode_unplus_encodeChar (c : Char) (rest : Bytes) :
    Percent.decode ((Utf8.encode (String.ofList (encodeText [c])) ++ rest).map unplus) =
      String.utf8EncodeChar c ++ Percent.decode (rest.map unplus) := by
  simp only [encodeText, List.flatMap_cons, List.flatMap_nil, List.append_nil]
  split
  · rename_i hc
    subst hc
    exact Percent.decode_cons (by decide) _
  · split
    · rename_i hp
      obtain ⟨hlt, hplus, hpercent, -, -⟩ := isPlain_spec hp
      have h43 : UInt8.ofNat c.toNat ≠ 43 := Utf8.ofNat_toNat_ne hlt (by decide) hplus
      have h37 : UInt8.ofNat c.toNat ≠ 37 := Utf8.ofNat_toNat_ne hlt (by decide) hpercent
      simp only [Utf8.encode_ofList, List.flatMap_cons, List.flatMap_nil, List.append_nil,
        Utf8.utf8EncodeChar_ascii hlt, List.cons_append, List.nil_append, List.map_cons]
      rw [unplus, if_neg h43, Percent.decode_cons h37]
    · have he : Percent.encode (fun _ => true) [c] =
          (String.utf8EncodeChar c).flatMap Percent.encodeByte := by
        simp [Percent.encode, Percent.charBytes_eq]
      rw [he, decode_unplus_encodeBytes]

/-- A name or a value is read as it was before it was encoded. -/
theorem decodeText_encodeText (cs : List Char) :
    decodeText (Utf8.encode (String.ofList (encodeText cs))) = String.ofList cs := by
  have h (rest : Bytes) :
      Percent.decode ((Utf8.encode (String.ofList (encodeText cs)) ++ rest).map unplus) =
        cs.flatMap String.utf8EncodeChar ++ Percent.decode (rest.map unplus) := by
    induction cs with
    | nil => rfl
    | cons c cs ih =>
      have hcons : encodeText (c :: cs) = encodeText [c] ++ encodeText cs := by
        simp [encodeText]
      rw [hcons, Utf8.encode_ofList_append, List.append_assoc, decode_unplus_encodeChar, ih,
        List.flatMap_cons, List.append_assoc]
  have h := h []
  rw [List.append_nil] at h
  change String.ofList (Utf8.lossy (Percent.decode (List.map unplus _))) = _
  rw [h, show Percent.decode ([].map unplus) = [] from rfl, List.append_nil, ← Utf8.encode_ofList,
    Utf8.lossy_encode, String.toList_ofList]

/-- The characters that an encoded text is made of. -/
theorem mem_encodeText {cs : List Char} {c : Char} (h : c ∈ encodeText cs) :
    c = '+' ∨ isPlain c = true ∨ Percent.IsEscape c := by
  obtain ⟨d, -, hc⟩ := List.mem_flatMap.mp h
  split at hc
  · exact .inl (List.mem_singleton.mp hc)
  · split at hc
    · rename_i hp
      obtain rfl := List.mem_singleton.mp hc
      exact .inr (.inl hp)
    · rcases Percent.mem_encode hc with he | ⟨-, ht, -⟩
      · exact .inr (.inr he)
      · cases ht

/-- No encoded text holds a sign that parts pairs, or a name from its value. -/
private theorem encodeText_spec {cs : List Char} {c : Char} (h : c ∈ encodeText cs) :
    c.toNat < 128 ∧ c ≠ '&' ∧ c ≠ '=' := by
  rcases mem_encodeText h with rfl | hp | he
  · decide
  · obtain ⟨hlt, -, -, hamp, heq⟩ := isPlain_spec hp
    exact ⟨hlt, hamp, heq⟩
  · exact Percent.isEscape_spec he

private theorem cut_append {p : UInt8 → Bool} {a b : Bytes} {sep : UInt8}
    (ha : ∀ x ∈ a, p x = false) (hs : p sep = true) : cut p (a ++ sep :: b) = (a, b) := by
  have hall : ∀ x ∈ a, (!p x) = true := by simpa using ha
  simp [cut, List.takeWhile_append_of_pos hall, List.dropWhile_append_of_pos hall, hs]

private theorem cut_all {p : UInt8 → Bool} {a : Bytes} (ha : ∀ x ∈ a, p x = false) :
    cut p a = (a, []) := by
  have hall : ∀ x ∈ a, (!p x) = true := by simpa using ha
  have htake : (a ++ []).takeWhile (fun b => !p b) = a ++ [] := List.takeWhile_append_of_pos hall
  have hdrop : (a ++ []).dropWhile (fun b => !p b) = [] := List.dropWhile_append_of_pos hall
  rw [List.append_nil] at htake hdrop
  simp [cut, htake, hdrop]

private theorem isSeparator_eq_false {bytes : Bytes} (h : 38 ∉ bytes) :
    ∀ b ∈ bytes, isSeparator b = false := by
  intro b hb
  simp only [isSeparator, beq_eq_false_iff_ne]
  rintro rfl
  exact h hb

private theorem pieces_eq_splitOn (bytes : Bytes) :
    pieces (bytes.count 38 + 1) bytes = bytes.splitOn 38 := by
  by_cases h : 38 ∈ bytes
  · obtain ⟨a, b, he, ha⟩ := List.eq_append_cons_of_mem h
    have hcount : bytes.count 38 = b.count 38 + 1 := by
      simp [he, List.count_eq_zero_of_not_mem ha]
    rw [hcount, pieces, he, cut_append (isSeparator_eq_false ha) rfl,
      List.splitOn_append_cons_self_of_not_mem ha, ← pieces_eq_splitOn b]
  · rw [List.splitOn_eq_singleton h, List.count_eq_zero_of_not_mem h]
    simp [pieces, cut_all (isSeparator_eq_false h)]
termination_by bytes.length
decreasing_by simp only [he, List.length_append, List.length_cons]; omega

/-- The pairs of two queries that are joined are those of the first and then those of the second. -/
theorem pairs_append (a b : List Char) : pairs (a ++ '&' :: b) = pairs a ++ pairs b := by
  have hb : Utf8.encode (String.ofList (a ++ '&' :: b)) =
      Utf8.encode (String.ofList a) ++ 38 :: Utf8.encode (String.ofList b) := by
    rw [Utf8.encode_ofList_append, Utf8.encode_ofList ('&' :: b), Utf8.encode_ofList b]
    rfl
  simp only [pairs, decode, pieces_eq_splitOn]
  rw [hb, List.splitOn_append_cons_self, List.filter_append, List.map_append]

private theorem encode_encodeText_ne (cs : List Char) :
    ∀ b ∈ Utf8.encode (String.ofList (encodeText cs)), b ≠ 38 ∧ b ≠ 61 := by
  intro b hb
  rw [Utf8.encode_ofList] at hb
  obtain ⟨c, hc, hb⟩ := List.mem_flatMap.mp hb
  obtain ⟨hlt, hamp, heq⟩ := encodeText_spec hc
  rw [Utf8.utf8EncodeChar_ascii hlt] at hb
  obtain rfl := List.mem_singleton.mp hb
  exact ⟨Utf8.ofNat_toNat_ne hlt (by decide) hamp, Utf8.ofNat_toNat_ne hlt (by decide) heq⟩

/-- What is written for one pair stands for that pair alone. -/
theorem pairs_pair (name value : String) : pairs (pair name value) = [(name, value)] := by
  have hb : Utf8.encode (String.ofList (pair name value)) =
      Utf8.encode (String.ofList (encodeText name.toList)) ++
        61 :: Utf8.encode (String.ofList (encodeText value.toList)) := by
    rw [pair, Utf8.encode_ofList_append, Utf8.encode_ofList ('=' :: _),
      Utf8.encode_ofList (encodeText value.toList)]
    rfl
  have hname := encode_encodeText_ne name.toList
  have hvalue := encode_encodeText_ne value.toList
  have hfree : 38 ∉ Utf8.encode (String.ofList (pair name value)) := by
    rw [hb]
    intro h
    rcases List.mem_append.mp h with h | h
    · exact (hname _ h).1 rfl
    · rcases List.mem_cons.mp h with h | h
      · cases h
      · exact (hvalue _ h).1 rfl
  rw [pairs, decode, pieces_eq_splitOn, List.splitOn_eq_singleton hfree, hb]
  have hcut (rest : Bytes) :
      cut (· == 61) (Utf8.encode (String.ofList (encodeText name.toList)) ++ 61 :: rest) =
        (Utf8.encode (String.ofList (encodeText name.toList)), rest) :=
    cut_append (fun x hx => beq_eq_false_iff_ne.mpr (hname x hx).2) rfl
  simp [hcut, decodeText_encodeText]

end CredentialIssuer.Form
