import CredentialIssuer.Text.Utf8

/-! The bytes of a text, one character after the other. -/
namespace CredentialIssuer.Utf8

/-- A text is encoded character by character. -/
theorem encode_ofList (cs : List Char) :
    encode (String.ofList cs) = cs.flatMap String.utf8EncodeChar := by
  simp [encode, List.utf8Encode]

theorem encode_ofList_append (a b : List Char) :
    encode (String.ofList (a ++ b)) = encode (String.ofList a) ++ encode (String.ofList b) := by
  rw [encode_ofList, encode_ofList, encode_ofList, List.flatMap_append]

/-- An ASCII character is one byte. -/
theorem utf8EncodeChar_ascii {c : Char} (h : c.toNat < 128) :
    String.utf8EncodeChar c = [UInt8.ofNat c.toNat] := by
  have hv : c.val.toNat ≤ 127 := Nat.le_of_lt_succ h
  simp only [String.utf8EncodeChar, if_pos hv]
  rfl

/-- ASCII characters differ as bytes when they differ. -/
theorem ofNat_toNat_ne {c d : Char} (hc : c.toNat < 128) (hd : d.toNat < 128) (h : c ≠ d) :
    UInt8.ofNat c.toNat ≠ UInt8.ofNat d.toNat := by
  intro he
  have ht := congrArg UInt8.toNat he
  rw [UInt8.toNat_ofNat', UInt8.toNat_ofNat', Nat.mod_eq_of_lt (by omega),
    Nat.mod_eq_of_lt (by omega)] at ht
  exact h (Char.toNat_inj.mp ht)

/-- Bytes are the text whose encoding they are, and there is no other. -/
theorem decode?_eq_some_iff {bytes : Bytes} {text : String} :
    decode? bytes = some text ↔ bytes = encode text := by
  constructor
  · intro h
    unfold decode? String.fromUTF8? at h
    split at h
    · obtain rfl := Option.some.inj h
      simp [encode, String.fromUTF8]
    · cases h
  · rintro rfl
    exact decode_encode text

private theorem take_of_leading? {bytes : Bytes} {c : Char} {k : Nat}
    (h : leading? bytes = some (c, k)) :
    1 ≤ k ∧ bytes.take k = encode (String.ofList [c]) := by
  obtain ⟨j, hj, hdecode⟩ := List.exists_of_findSome?_eq_some h
  split at hdecode
  · rename_i d hd
    obtain ⟨rfl, rfl⟩ := Prod.mk.inj (Option.some.inj hdecode)
    obtain ⟨text, htext, hchars⟩ := Option.map_eq_some_iff.mp hd
    rw [← hchars, String.ofList_toList]
    exact ⟨by grind, decode?_eq_some_iff.mp htext⟩
  · cases hdecode

/-- Bytes among which there are only characters are a text. -/
private theorem exists_encode_of_damaged {bytes : Bytes} (h : none ∉ damaged bytes) :
    ∃ text, bytes = encode text := by
  fun_induction damaged bytes with
  | case1 => exact ⟨"", rfl⟩
  | case2 first rest c k hleading ih =>
    obtain ⟨htake, hfirst⟩ := take_of_leading? hleading
    obtain ⟨text, htext⟩ := ih fun hmem => h (List.mem_cons_of_mem _ hmem)
    have hdrop : (first :: rest).drop k = rest.drop (k - 1) := by
      obtain ⟨j, rfl⟩ := Nat.exists_eq_add_of_le' htake
      rfl
    refine ⟨String.ofList (c :: text.toList), ?_⟩
    have hcons : c :: text.toList = [c] ++ text.toList := rfl
    rw [hcons, encode_ofList_append, String.ofList_toList, ← hfirst, ← htext, ← hdrop,
      List.take_append_drop]
  | case3 first rest hleading ih => exact absurd List.mem_cons_self h

/-- In bytes that are no text there is a byte that is part of no character. -/
theorem none_mem_symbols {bytes : Bytes} (h : decode? bytes = none) : none ∈ symbols bytes := by
  rw [symbols, h]
  refine Decidable.byContradiction fun hmem => ?_
  obtain ⟨text, rfl⟩ := exists_encode_of_damaged hmem
  rw [decode_encode] at h
  cases h

/-- Nothing is lost where the bytes are a text. -/
theorem lossy_encode (text : String) : lossy (encode text) = text.toList := by
  rw [lossy, decode_encode]

end CredentialIssuer.Utf8
