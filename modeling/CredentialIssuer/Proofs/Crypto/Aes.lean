import CredentialIssuer.Crypto.Aes
import CredentialIssuer.Proofs.Text.Bytes

/-! Under a key of whole words the block cipher gives blocks of 16 bytes. -/
namespace CredentialIssuer.Aes

private theorem length_shiftRows (b : Block) : (shiftRows b).length = 16 := by
  rw [shiftRows, List.length_map, List.length_range]

/-- The last round key is as long as what it is added to. -/
private theorem length_encryptRounds {keys : List Block} (hne : keys ≠ [])
    (h : ∀ key ∈ keys, key.length = 16) (b : Block) : (encryptRounds b keys).length = 16 := by
  induction b, keys using encryptRounds.induct with
  | case1 b => exact absurd rfl hne
  | case2 b key =>
    rw [encryptRounds, Bytes.length_xor, length_shiftRows, h key (by simp), Nat.min_self]
  | case3 b key keys hkeys ih =>
    rw [encryptRounds]
    · exact ih hkeys fun k hk => h k (List.mem_cons_of_mem key hk)
    · exact hkeys

section Schedule

private theorem length_grouped (size count : Nat) (bytes : Bytes) :
    (grouped size count bytes).length = count := by
  induction count generalizing bytes with
  | zero => rfl
  | succ count ih => rw [grouped, List.length_cons, ih]

private theorem length_of_mem_grouped {size count : Nat} {bytes group : Bytes}
    (hlength : bytes.length = size * count) (h : group ∈ grouped size count bytes) :
    group.length = size := by
  induction count generalizing bytes with
  | zero => cases h
  | succ count ih =>
    rw [Nat.mul_succ] at hlength
    rcases List.mem_cons.mp h with rfl | h
    · rw [List.length_take]
      omega
    · refine ih ?_ h
      rw [List.length_drop]
      omega

private theorem length_expand (size left i : Nat) (constant : UInt8) (recent : List Bytes) :
    (expand size left i constant recent).length = left := by
  induction left generalizing i constant recent with
  | zero => rfl
  | succ left ih => simp only [expand, List.length_cons, ih]

private theorem length_rotateWord (word : Bytes) : (rotateWord word).length = word.length := by
  cases word with
  | nil => rfl
  | cons a rest => rw [rotateWord, List.length_append, List.length_singleton, List.length_cons]

/-- What the next word is made of, and what is left to do after it. -/
private theorem expand_succ (size left i : Nat) (constant : UInt8) {recent : List Bytes}
    {first : Bytes}
    {others : List Bytes} (hwords : ∀ w ∈ recent, w.length = 4) (h : recent = first :: others) :
    ∃ mixed next, mixed.length = 4 ∧
      expand size (left + 1) i constant recent =
        Bytes.xor first mixed ::
          expand size left (i + 1) next (others ++ [Bytes.xor first mixed]) := by
  have hlast : (recent.getLastD []).length = 4 := by
    rw [h, List.getLastD_cons]
    exact hwords _ (h ▸ List.getLastD_mem_cons)
  subst h
  rw [expand]
  dsimp only
  split
  · refine ⟨_, _, ?_, rfl⟩
    rw [Bytes.length_xor, List.length_map, length_rotateWord, hlast]
    rfl
  · split
    · exact ⟨_, _, (List.length_map _).trans hlast, rfl⟩
    · exact ⟨_, _, hlast, rfl⟩

private theorem length_of_mem_expand {size left i : Nat} {constant : UInt8} {recent : List Bytes}
    {word : Bytes} (hne : recent ≠ []) (hwords : ∀ w ∈ recent, w.length = 4)
    (h : word ∈ expand size left i constant recent) : word.length = 4 := by
  induction left generalizing i constant recent with
  | zero => cases h
  | succ left ih =>
    obtain ⟨first, others, hrecent⟩ := List.exists_cons_of_ne_nil hne
    obtain ⟨mixed, next, hmixed, hstep⟩ := expand_succ size left i constant hwords hrecent
    have hnew : (Bytes.xor first mixed).length = 4 := by
      rw [Bytes.length_xor, hwords first (hrecent ▸ List.mem_cons_self), hmixed, Nat.min_self]
    rw [hstep] at h
    rcases List.mem_cons.mp h with rfl | h
    · exact hnew
    · refine ih (by simp) ?_ h
      intro w hw
      rcases List.mem_append.mp hw with hw | hw
      · exact hwords w (hrecent ▸ List.mem_cons_of_mem first hw)
      · rwa [List.mem_singleton.mp hw]

private theorem length_roundKeys (key : Bytes) : (roundKeys key).length = key.length / 4 + 7 := by
  rw [roundKeys, length_grouped]

private theorem length_of_mem_roundKeys {key : Bytes} (hne : key ≠ []) (hdvd : 4 ∣ key.length)
    {roundKey : Block} (h : roundKey ∈ roundKeys key) : roundKey.length = 16 := by
  have hpos : 0 < key.length := List.length_pos_iff.mpr hne
  let size := key.length / 4
  let words := grouped 4 size key
  let all := words ++ expand size (4 * (size + 7) - size) size 1 words
  have hsize : key.length = 4 * size := (Nat.mul_div_cancel' hdvd).symm
  have hwords : ∀ w ∈ words, w.length = 4 := fun w hw => length_of_mem_grouped hsize hw
  have hlength : words.length = size := length_grouped 4 size key
  have hnonempty : words ≠ [] := by
    rw [← List.length_pos_iff, hlength]
    omega
  have hall : ∀ w ∈ all, w.length = 4 := by
    intro w hw
    rcases List.mem_append.mp hw with hw | hw
    · exact hwords w hw
    · exact length_of_mem_expand hnonempty hwords hw
  have hcount : all.length = 4 * (size + 7) := by
    rw [List.length_append, length_expand, hlength]
    omega
  have hbytes : all.flatten.length = 16 * (size + 7) := by
    have hlengths : all.map List.length = List.replicate all.length 4 :=
      List.map_eq_replicate_iff.mpr hall
    rw [List.length_flatten, hlengths, List.sum_replicate_nat, hcount]
    omega
  exact length_of_mem_grouped hbytes h

end Schedule

/-- Blocks keep their length, whatever is in them. -/
theorem length_encryptBlock {key : Bytes} (hne : key ≠ []) (hdvd : 4 ∣ key.length) (block : Block) :
    (encryptBlock (roundKeys key) block).length = 16 := by
  have hlength := length_roundKeys key
  have hkeys (k : Block) (hk : k ∈ roundKeys key) := length_of_mem_roundKeys hne hdvd hk
  match roundKeys key, hlength, hkeys with
  | first :: second :: rest, _, hkeys =>
    exact length_encryptRounds (List.cons_ne_nil second rest)
      (fun k hk => hkeys k (List.mem_cons_of_mem first hk)) _

end CredentialIssuer.Aes
