import CredentialIssuer.Json.Printer
import CredentialIssuer.Json.Reader
import CredentialIssuer.Proofs.Json.Token

/-! A text that was printed is read character by character, whatever bytes it was sent as, and a
value that was written exactly is the one that is read. -/
namespace CredentialIssuer.Json

/-- Reading what was printed is reading its characters. -/
theorem read?_print (value : Json) : read? value.print = readSymbols? (value.chars.map some) := by
  rw [read?, print, String.toList_ofList]

theorem readBytes?_print (value : Json) :
    readBytes? (Utf8.encode value.print) = readSymbols? (value.chars.map some) := by
  rw [readBytes?, Utf8.symbols_encode, print, String.toList_ofList]

/-- A state where a value may begin, below it the stack that it is put on. -/
private def Awaits (state : ReaderState) (stack : List Frame) : Prop :=
  ∀ token, token ≠ .endArray → state.step? token = begin? stack token

private theorem awaits_value (stack : List Frame) : Awaits (.value stack) stack := by
  intro token _
  cases token <;> rfl

private theorem awaits_firstItem (stack : List Frame) :
    Awaits (.firstItem stack) (.array [] :: stack) := by
  intro token h
  cases token <;> first | rfl | exact absurd rfl h

private def spelled (members : Members) : List (Option String × Json) :=
  members.map fun m => (some m.1, m.2)

private theorem closeObject_spelled (members : Members) :
    closeObject (spelled members).reverse = .object members := by
  have hnamed : named? (spelled members) = some members := by
    induction members with
    | nil => rfl
    | cons m members ih =>
      rw [spelled, List.map_cons] at *
      simp [named?, ih]
  rw [closeObject, List.reverse_reverse, hnamed]

mutual

/-- The tokens of a value leave it on the stack. -/
private theorem run_tokens (value : Json) (h : value.isExact = true) {state : ReaderState}
    {stack : List Frame} (hstate : Awaits state stack) :
    value.tokens.foldlM ReaderState.step? state = some (.done value stack) := by
  match value with
  | .null =>
    rw [tokens, List.foldlM_cons, hstate .null (by simp)]
    rfl
  | .bool b =>
    rw [tokens, List.foldlM_cons, hstate (.bool b) (by simp)]
    rfl
  | .number n =>
    rw [tokens, List.foldlM_cons, hstate (.number (some n)) (by simp)]
    rfl
  | .string s =>
    rw [tokens, List.foldlM_cons, hstate (.string (some s)) (by simp)]
    rfl
  | .array [] =>
    rw [tokens, List.foldlM_cons, hstate .beginArray (by simp)]
    rfl
  | .array (item :: items) =>
    obtain ⟨hitem, hitems⟩ := Bool.and_eq_true_iff.mp h
    rw [tokens, List.foldlM_cons, hstate .beginArray (by simp)]
    simp only [begin?, Option.bind_eq_bind, Option.bind_some, List.foldlM_append]
    rw [run_tokens item hitem (awaits_firstItem stack), Option.bind_some,
      run_itemTokens items hitems]
    rfl
  | .object [] =>
    rw [tokens, List.foldlM_cons, hstate .beginObject (by simp)]
    rfl
  | .object ((name, value) :: members) =>
    obtain ⟨hvalue, hmembers⟩ := Bool.and_eq_true_iff.mp h
    rw [tokens, List.foldlM_cons, hstate .beginObject (by simp)]
    simp only [begin?, ReaderState.step?, Option.bind_eq_bind, Option.bind_some, List.foldlM_cons,
      List.foldlM_append]
    rw [run_tokens value hvalue (awaits_value _), Option.bind_some]
    exact run_memberTokens members hmembers name value [] stack
  | .unreadable => cases h

private theorem run_itemTokens (items : List Json) (h : itemsExact items = true) (last : Json)
    (before : List Json) (stack : List Frame) :
    (itemTokens items).foldlM ReaderState.step? (.done last (.array before :: stack)) =
      some (.done (.array ((last :: before).reverse ++ items)) stack) := by
  match items with
  | [] => simp [itemTokens, ReaderState.step?]
  | item :: items =>
    obtain ⟨hitem, hitems⟩ := Bool.and_eq_true_iff.mp h
    rw [itemTokens, List.foldlM_cons]
    simp only [ReaderState.step?, Option.bind_eq_bind, Option.bind_some, List.foldlM_append]
    rw [run_tokens item hitem (awaits_value _), Option.bind_some, run_itemTokens items hitems]
    simp

private theorem run_memberTokens (members : Members) (h : membersExact members = true)
    (name : String) (last : Json) (before : Members) (stack : List Frame) :
    (memberTokens members).foldlM ReaderState.step?
        (.done last (.object (spelled before).reverse (some name) :: stack)) =
      some (.done (.object (before ++ (name, last) :: members)) stack) := by
  have hpush : (some name, last) :: (spelled before).reverse =
      (spelled (before ++ [(name, last)])).reverse := by
    simp [spelled]
  match members with
  | [] =>
    rw [memberTokens, List.foldlM_cons]
    simp only [ReaderState.step?, hpush, closeObject_spelled]
    rfl
  | (next, value) :: members =>
    obtain ⟨hvalue, hmembers⟩ := Bool.and_eq_true_iff.mp h
    rw [memberTokens, List.foldlM_cons]
    simp only [ReaderState.step?, Option.bind_eq_bind, Option.bind_some, List.foldlM_cons,
      List.foldlM_append]
    rw [run_tokens value hvalue (awaits_value _), Option.bind_some, hpush,
      run_memberTokens members hmembers]
    simp

end

/-- A value that is written exactly is the one that is read. -/
theorem readSymbols?_chars {value : Json} (h : value.isExact = true) :
    readSymbols? (value.chars.map some) = some value := by
  rw [readSymbols?, tokens?_chars h, Option.bind_some, ofTokens?,
    run_tokens value h (awaits_value [])]

/-- An exact value is read back from its printed bytes. -/
theorem readBytes?_encode_print {value : Json} (h : value.isExact = true) :
    readBytes? (Utf8.encode value.print) = some value := by
  rw [readBytes?_print, readSymbols?_chars h]

end CredentialIssuer.Json
