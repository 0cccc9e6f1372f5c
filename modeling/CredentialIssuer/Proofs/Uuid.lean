import CredentialIssuer.Proofs.Text.Bytes
import CredentialIssuer.Uuid

/-! An identifier is read back from its hyphenated text. -/
namespace CredentialIssuer.Uuid

private theorem length_grouped {cs : List Char} (h : cs.length = 32) :
    (grouped cs).length = 36 := by
  simp [grouped, h]

/-- The hyphens are the only ones. -/
private theorem filter_grouped {cs : List Char} (h : '-' ∉ cs) :
    (grouped cs).filter (· ≠ '-') = cs := by
  have hkept {part : List Char} (hpart : part ⊆ cs) : part.filter (· ≠ '-') = part := by
    rw [List.filter_eq_self]
    intro c hc
    exact decide_eq_true fun he => h (he ▸ hpart hc)
  have hgroup (i n : Nat) : ((cs.drop i).take n).filter (· ≠ '-') = (cs.drop i).take n :=
    hkept fun _ hc => List.mem_of_mem_drop (List.mem_of_mem_take hc)
  have hjoin (i n : Nat) : (cs.drop i).take n ++ cs.drop (i + n) = cs.drop i := by
    rw [← List.drop_drop, List.take_append_drop]
  have hhyphen (cs : List Char) : ('-' :: cs).filter (· ≠ '-') = cs.filter (· ≠ '-') := rfl
  rw [grouped]
  simp only [List.append_assoc, List.cons_append, List.filter_append, hhyphen, hgroup,
    hkept (List.take_subset 8 cs), hkept (List.drop_subset 20 cs)]
  rw [hjoin 16 4, hjoin 12 4, hjoin 8 4, List.take_append_drop]

/-- An id is read back from its text. -/
theorem read?_print (u : Uuid) : read? u.print = some u := by
  have hlength : (Bytes.toHex u.bytes).toList.length = 32 := by
    rw [Bytes.length_toHex, u.length_eq]
  have hfilter := filter_grouped (Bytes.hyphen_not_mem_toHex u.bytes)
  have hsimple : ofSimple? (Bytes.toHex u.bytes).toList = some u := by
    rw [ofSimple?, String.ofList_toList, Bytes.ofHex?_toHex, Option.bind_some]
    exact dif_pos u.length_eq
  have hgrouped := length_grouped hlength
  rw [read?, print, String.toList_ofList, if_neg (by omega), if_pos hgrouped,
    ofHyphenated?]
  simp only [hfilter, hlength, and_self, if_true]
  exact hsimple

end CredentialIssuer.Uuid
