import CredentialIssuer.Proofs.Json.Reader
import CredentialIssuer.Proofs.Json.Members
import CredentialIssuer.Proofs.Json.Sorted
import CredentialIssuer.Proofs.Text.Utf8

/-! Only texts are kept. The reader passes over bytes that are part of no character as long as they
stand in a string, but then some piece of what it reads has no value.

Such a byte is followed through both machines: the string around it becomes a token without a text,
and that token damages a frame of the stack, which stays damaged until the document is done. -/
namespace CredentialIssuer.Json

open Utf8 (Symbol)

section Values

variable {levels : Nat}

def Unkeepable (value : Json) : Prop := ∀ levels, value.isKeepable levels = false

/-- What could not be read is not kept. -/
theorem unkeepable_unreadable : Unkeepable .unreadable := fun _ => rfl

private theorem itemsKeepable_eq_all (levels : Nat) (items : List Json) :
    itemsKeepable levels items = items.all (isKeepable levels) := by
  induction items with
  | nil => rfl
  | cons item items ih => rw [itemsKeepable, ih, List.all_cons]

private theorem membersKeepable_eq_all (levels : Nat) (members : Members) :
    membersKeepable levels members = members.all fun m => m.2.isKeepable levels := by
  induction members with
  | nil => rfl
  | cons m members ih => rw [membersKeepable, ih, List.all_cons]

theorem itemsKeepable_map {α : Type} {encode : α → Json}
    (h : ∀ a, (encode a).isKeepable levels = true) (l : List α) :
    itemsKeepable levels (l.map encode) = true := by
  rw [itemsKeepable_eq_all, List.all_map, List.all_eq_true]
  exact fun a _ => h a

theorem membersKeepable_append (a b : Members) :
    membersKeepable levels (a ++ b) = (membersKeepable levels a && membersKeepable levels b) := by
  simp only [membersKeepable_eq_all, List.all_append]

theorem membersKeepable_member? {α : Type} (name : String) {encode : α → Json}
    (h : ∀ a, (encode a).isKeepable levels = true) (value : Option α) :
    membersKeepable levels (member? name encode value) = true := by
  cases value with
  | none => rfl
  | some a => simp [member?, membersKeepable, h a]

private theorem Unkeepable.array {items : List Json} {item : Json} (hmem : item ∈ items)
    (h : item.Unkeepable) : Unkeepable (.array items) := by
  rintro (_ | levels)
  · rfl
  · rw [isKeepable, itemsKeepable_eq_all, List.all_eq_false]
    exact ⟨item, hmem, by simp [h levels]⟩

private theorem Unkeepable.object {members : Members} {m : String × Json} (hmem : m ∈ members)
    (h : m.2.Unkeepable) : Unkeepable (.object members) := by
  rintro (_ | levels)
  · rfl
  · rw [isKeepable, membersKeepable_eq_all, List.all_eq_false]
    exact ⟨m, hmem, by simp [h levels]⟩

end Values

section Reader

def MembersDamaged (members : List (Option String × Json)) : Prop :=
  ∃ m ∈ members, m.1 = none ∨ m.2.Unkeepable

def Frame.Damaged : Frame → Prop
  | .array items => ∃ item ∈ items, item.Unkeepable
  | .object members name => name = none ∨ MembersDamaged members

/-- The stack with what the state itself holds on top, a finished value as an item of its own. -/
def ReaderState.frames : ReaderState → List Frame
  | .value stack => stack
  | .firstItem stack => stack
  | .firstName stack => stack
  | .nextName members stack => .object members (some "") :: stack
  | .colon members name stack => .object members name :: stack
  | .done v stack => .array [v] :: stack

def ReaderState.Damaged (state : ReaderState) : Prop := ∃ frame ∈ state.frames, frame.Damaged

variable {stack : List Frame}

private theorem damaged_push_iff {frame : Frame} :
    (∃ f ∈ frame :: stack, f.Damaged) ↔ frame.Damaged ∨ ∃ f ∈ stack, f.Damaged := by
  simp only [List.mem_cons, exists_eq_or_imp]

private theorem damaged_done_iff {value : Json} :
    (ReaderState.done value stack).Damaged ↔ value.Unkeepable ∨ ∃ f ∈ stack, f.Damaged := by
  refine damaged_push_iff.trans (or_congr_left ?_)
  simp only [Frame.Damaged, List.mem_singleton, exists_eq_left]

private theorem damaged_done_push_iff {value : Json} {frame : Frame} :
    (ReaderState.done value (frame :: stack)).Damaged ↔
      (value.Unkeepable ∨ frame.Damaged) ∨ ∃ f ∈ stack, f.Damaged := by
  rw [damaged_done_iff, damaged_push_iff, or_assoc]

private theorem damaged_array_cons_iff {item : Json} {items : List Json} :
    (Frame.array (item :: items)).Damaged ↔ item.Unkeepable ∨ (Frame.array items).Damaged := by
  simp only [Frame.Damaged, List.mem_cons, exists_eq_or_imp]

private theorem membersDamaged_cons_iff {name : Option String} {value : Json}
    {members : List (Option String × Json)} :
    MembersDamaged ((name, value) :: members) ↔
      value.Unkeepable ∨ (Frame.object members name).Damaged := by
  simp only [Frame.Damaged, MembersDamaged, List.mem_cons, exists_eq_or_imp]
  exact or_assoc.trans or_left_comm

private theorem eq_of_named? {members : List (Option String × Json)} {named : Members}
    (h : named? members = some named) : members = named.map fun m => (some m.1, m.2) := by
  induction members generalizing named with
  | nil =>
    obtain rfl := Option.some.inj h
    rfl
  | cons m members ih =>
    obtain ⟨_ | name, value⟩ := m
    · cases h
    · obtain ⟨rest, hrest, rfl⟩ := Option.map_eq_some_iff.mp h
      rw [ih hrest, List.map_cons]

private theorem unkeepable_closeObject {members : List (Option String × Json)}
    (h : MembersDamaged members) : (closeObject members).Unkeepable := by
  obtain ⟨m, hmem, hm⟩ := h
  unfold closeObject
  split
  · rename_i named hnamed
    have hmem : m ∈ named.map fun m => (some m.1, m.2) :=
      eq_of_named? hnamed ▸ List.mem_reverse.mpr hmem
    obtain ⟨other, hother, rfl⟩ := List.mem_map.mp hmem
    exact .object hother (hm.resolve_left nofun)
  · exact unkeepable_unreadable

private theorem damaged_begin? {token : Token} {next : ReaderState}
    (hnext : begin? stack token = some next)
    (h : (∃ f ∈ stack, f.Damaged) ∨ token = .string none) : next.Damaged := by
  cases token with
  | string text =>
    cases text with
    | none =>
      obtain rfl := Option.some.inj hnext
      exact damaged_done_iff.mpr (.inl unkeepable_unreadable)
    | some text =>
      obtain rfl := Option.some.inj hnext
      exact damaged_done_iff.mpr (.inr (h.resolve_right nofun))
  | number value =>
    have hstack := h.resolve_right nofun
    cases value <;>
    · obtain rfl := Option.some.inj hnext
      exact damaged_done_iff.mpr (.inr hstack)
  | null | bool value =>
    obtain rfl := Option.some.inj hnext
    exact damaged_done_iff.mpr (.inr (h.resolve_right nofun))
  | beginArray | beginObject =>
    obtain rfl := Option.some.inj hnext
    exact h.resolve_right nofun
  | endArray | endObject | comma | colon => cases hnext

/-- Damage stays, and a string without a text adds to it wherever it stands. -/
theorem ReaderState.Damaged.step {state next : ReaderState} {token : Token}
    (hstep : state.step? token = some next) (h : state.Damaged ∨ token = .string none) :
    next.Damaged := by
  unfold ReaderState.step? at hstep
  split at hstep
  -- A value begins, or the first item of an array, which is pushed before it.
  case h_1 => exact damaged_begin? hstep h
  case h_3 =>
    exact damaged_begin? hstep (h.imp_left fun hstack => damaged_push_iff.mpr (.inr hstack))
  -- A name that has no text is damage of its own.
  case h_5 =>
    obtain rfl := Option.some.inj hstep
    rcases h with hstack | hname
    · exact damaged_push_iff.mpr (.inr hstack)
    · exact damaged_push_iff.mpr (.inl (.inl (Token.string.inj hname)))
  case h_6 =>
    obtain rfl := Option.some.inj hstep
    rcases h with h | hname
    · refine damaged_push_iff.mpr ((damaged_push_iff.mp h).imp_left fun hmembers => ?_)
      exact .inr (hmembers.resolve_left (by simp))
    · exact damaged_push_iff.mpr (.inl (.inl (Token.string.inj hname)))
  -- No other token is a string.
  case h_12 => cases hstep
  all_goals
    obtain rfl := Option.some.inj hstep
    replace h := h.resolve_right (by simp)
  case h_2 | h_4 => exact damaged_done_iff.mpr (.inr h)
  case h_7 => exact h
  -- A value is put into the frame below it, which may be closed with it.
  all_goals replace h := damaged_done_push_iff.mp h
  case h_8 => exact damaged_push_iff.mpr (h.imp_left damaged_array_cons_iff.mpr)
  case h_9 =>
    refine damaged_done_iff.mpr (h.imp_left fun hitems => ?_)
    obtain ⟨item, hmem, hitem⟩ := damaged_array_cons_iff.mpr hitems
    exact .array (List.mem_reverse.mpr hmem) hitem
  case h_10 =>
    refine damaged_push_iff.mpr (h.imp_left fun hmembers => ?_)
    exact .inr (membersDamaged_cons_iff.mpr hmembers)
  case h_11 =>
    refine damaged_done_iff.mpr (h.imp_left fun hmembers => ?_)
    exact unkeepable_closeObject (membersDamaged_cons_iff.mpr hmembers)

/-- Damage once taken is there at the end, and a string that is no text does damage. -/
theorem ReaderState.Damaged.run {state last : ReaderState} {tokens : List Token}
    (hrun : tokens.foldlM ReaderState.step? state = some last)
    (h : state.Damaged ∨ Token.string none ∈ tokens) : last.Damaged := by
  induction tokens generalizing state with
  | nil =>
    obtain rfl := Option.some.inj hrun
    exact h.resolve_right List.not_mem_nil
  | cons token tokens ih =>
    rw [List.foldlM_cons] at hrun
    obtain ⟨next, hnext, hrun⟩ := Option.bind_eq_some_iff.mp hrun
    refine ih hrun ?_
    rcases h with h | h
    · exact .inl (.step hnext (.inl h))
    · rcases List.mem_cons.mp h with rfl | h
      · exact .inl (.step hnext (.inr rfl))
      · exact .inr h

private theorem unkeepable_of_ofTokens? {tokens : List Token} {value : Json}
    (hread : ofTokens? tokens = some value) (h : Token.string none ∈ tokens) :
    value.Unkeepable := by
  unfold ofTokens? at hread
  split at hread
  · rename_i v hrun
    obtain rfl := Option.some.inj hread
    exact (damaged_done_iff.mp (ReaderState.Damaged.run hrun (.inr h))).resolve_right nofun
  · cases hread

end Reader

section Scanner

private theorem none_mem_of_mem_cons {c : Symbol} {rest : List Symbol} (hc : c ≠ none)
    (h : none ∈ c :: rest) : none ∈ rest :=
  (List.mem_cons.mp h).resolve_left hc.symm

private theorem none_mem_of_some_cons {c : Char} {rest : List Symbol} (h : none ∈ some c :: rest) :
    none ∈ rest :=
  none_mem_of_mem_cons (Option.some_ne_none c) h

/-- No byte that is part of no character is read as a digit of an escape. -/
private theorem none_mem_of_unit? {a b c d : Symbol} {unit : Nat}
    (hunit : unit? a b c d = some unit)
    {rest : List Symbol} (h : none ∈ some '\\' :: some 'u' :: a :: b :: c :: d :: rest) :
    none ∈ rest := by
  simp only [unit?, Option.bind_eq_bind, Option.bind_eq_some_iff] at hunit
  obtain ⟨_, ha, _, hb, _, hc, _, hd, -⟩ := hunit
  have hdigit {symbol : Symbol} {n : Nat} (hn : hexDigit? symbol = some n) : symbol ≠ none := by
    rintro rfl
    cases hn
  have h := none_mem_of_some_cons (none_mem_of_some_cons h)
  exact none_mem_of_mem_cons (hdigit hd) (none_mem_of_mem_cons (hdigit hc)
    (none_mem_of_mem_cons (hdigit hb) (none_mem_of_mem_cons (hdigit ha) h)))

/-- Once lost, a text stays lost, and it is lost in a byte that is part of no character. -/
private theorem scanString_lost {text : Option (List Char)} {s : Option String}
    {input rest : List Symbol} (hscan : scanString text input = some (s, rest)) :
    (text = none → s = none) ∧ (none ∈ input → s = none ∨ none ∈ rest) := by
  -- What is read on behind the part that was passed decides, if no such byte stands in the part.
  have hpassed {text : Option (List Char)} {extend : List Char → List Char}
      {input behind : List Symbol} (hinput : none ∈ input → none ∈ behind)
      (ih : (text.map extend = none → s = none) ∧ (none ∈ behind → s = none ∨ none ∈ rest)) :
      (text = none → s = none) ∧ (none ∈ input → s = none ∨ none ∈ rest) :=
    ⟨fun htext => ih.1 (Option.map_eq_none_iff.mpr htext), fun h => ih.2 (hinput h)⟩
  fun_induction scanString text input with
  | case1 | case3 | case4 | case10 | case12 => cases hscan
  | case2 text rest' =>
    obtain ⟨rfl, rfl⟩ := Prod.mk.inj (Option.some.inj hscan)
    exact ⟨fun htext => Option.map_eq_none_iff.mpr htext, fun h => .inr (none_mem_of_some_cons h)⟩
  | case6 | case7 | case8 | case14 =>
    rename_i ih
    have hlost := (ih hscan).1 rfl
    exact ⟨fun _ => hlost, fun _ => .inl hlost⟩
  | case5 text a b c d high hhigh _ e f g h rest' low hlow _ _ ih =>
    exact hpassed (fun hmem => none_mem_of_unit? hlow (none_mem_of_unit? hhigh hmem)) (ih hscan)
  | case9 text a b c d rest' unit hunit _ _ ih =>
    exact hpassed (none_mem_of_unit? hunit) (ih hscan)
  | case11 text c rest' _ c' _ ih =>
    exact hpassed (fun hmem => none_mem_of_some_cons (none_mem_of_some_cons hmem)) (ih hscan)
  | case13 text c rest' _ _ _ _ ih => exact hpassed none_mem_of_some_cons (ih hscan)

/-- Outside of strings there is no place for such a byte. -/
private theorem string_none_mem_of_scan {found tokens : List Token} {input : List Symbol}
    (hscan : scan found input = some tokens)
    (h : Token.string none ∈ found ∨ none ∈ input) : Token.string none ∈ tokens := by
  have hsymbol {holds : Symbol → Bool} (hnone : holds none = false) {c : Symbol}
      (hc : holds c = true) : c ≠ none := by
    rintro rfl
    rw [hnone] at hc
    cases hc
  fun_induction scan found input with
  | case1 found =>
    obtain rfl := Option.some.inj hscan
    exact List.mem_reverse.mpr (h.resolve_right List.not_mem_nil)
  | case2 _ _ ih | case3 _ _ ih | case4 _ _ ih | case5 _ _ ih | case6 _ _ ih | case7 _ _ ih
  | case8 _ _ ih | case9 _ _ ih | case10 _ _ ih => exact ih hscan (by simpa using h)
  | case12 found rest s rest' hstring ih =>
    refine ih hscan ?_
    rcases h with h | h
    · exact .inl (List.mem_cons_of_mem _ h)
    · refine ((scanString_lost hstring).2 (none_mem_of_some_cons h)).imp_left ?_
      rintro rfl
      exact List.mem_cons_self
  | case13 found c rest _ _ _ _ _ _ _ _ _ _ hblank ih =>
    exact ih hscan (h.imp_right (none_mem_of_mem_cons (hsymbol rfl hblank)))
  | case15 found c rest _ _ _ _ _ _ _ _ _ _ _ hnumeral token _ ih =>
    refine ih hscan (h.imp (List.mem_cons_of_mem _) fun h => ?_)
    have hrest := none_mem_of_mem_cons (hsymbol rfl hnumeral) h
    rw [← List.takeWhile_append_dropWhile (p := isNumeralSymbol) (l := rest)] at hrest
    refine (List.mem_append.mp hrest).resolve_left fun hmem => ?_
    exact hsymbol rfl (List.all_eq_true.mp List.all_takeWhile _ hmem) rfl
  | case11 | case14 | case16 => cases hscan

end Scanner

section Documents

private theorem unkeepable_of_no_text {bytes : Bytes} {value : Json}
    (hread : readBytes? bytes = some value) (h : Utf8.decode? bytes = none) : value.Unkeepable := by
  obtain ⟨tokens, hscan, htokens⟩ := Option.bind_eq_some_iff.mp hread
  exact unkeepable_of_ofTokens? htokens
    (string_none_mem_of_scan hscan (.inr (Utf8.none_mem_symbols h)))

theorem read?_empty : read? "" = none := by
  simp [read?, readSymbols?, tokens?, scan, ofTokens?]

/-- What is kept was read from a text. -/
theorem readBytes?_eq_some_iff_of_keepable {bytes : Bytes} {value : Json} {levels : Nat}
    (h : value.isKeepable levels = true) :
    readBytes? bytes = some value ↔ ∃ text, bytes = Utf8.encode text ∧ read? text = some value := by
  constructor
  · intro hread
    cases hdecode : Utf8.decode? bytes with
    | none => exact absurd h (by simp [unkeepable_of_no_text hread hdecode levels])
    | some text =>
      obtain rfl := Utf8.decode?_eq_some_iff.mp hdecode
      refine ⟨text, rfl, ?_⟩
      rwa [readBytes?, Utf8.symbols_encode] at hread
  · rintro ⟨text, rfl, hread⟩
    rwa [readBytes?, Utf8.symbols_encode]

/-- A value is kept if it is not nested too deep and can be read throughout, and then in sorted
form. -/
theorem kept?_eq_some_iff {level : Nat} {value kept : Json} :
    value.kept? level = some kept ↔
      value.isKeepable (maxLevels - level) = true ∧ kept = value.sorted := by
  rw [kept?]
  split
  · rename_i h
    simp [h, eq_comm]
  · rename_i h
    simp [h]

end Documents

section Objects

variable {name : String}

private theorem Members.get?_eq_getLast? (members : Members) (name : String) :
    members.get? name = (members.valuesOf name).getLast? := by
  have hfold (found : Option Json) :
      members.foldl (fun found m => if m.1 = name then some m.2 else found) found =
        (members.valuesOf name).getLast?.or found := by
    induction members generalizing found with
    | nil => rfl
    | cons m members ih =>
      rw [List.foldl_cons, ih]
      by_cases h : m.1 = name
      · simp [Members.valuesOf, h, List.getLast?_cons]
      · simp [Members.valuesOf, h]
  rw [Members.get?, hfold, Option.or_none]

/-- A member that is put in its place counts only where there is none of its name. -/
private theorem Members.valuesOf_insertNew {members : Members} (hordered : members.Ordered)
    (n : String) (value : Json) :
    Members.valuesOf (insertNew n value members) name =
      if n = name ∧ members.valuesOf name = [] then [value] else members.valuesOf name := by
  induction members with
  | nil => by_cases h : n = name <;> simp [insertNew, Members.valuesOf, h]
  | cons first rest ih =>
    obtain ⟨k, other⟩ := first
    obtain ⟨hfirst, hrest⟩ := List.pairwise_cons.mp hordered
    rw [insertNew]
    split
    · rename_i hlt
      rw [Members.valuesOf_cons]
      by_cases h : n = name
      · have hnone : Members.valuesOf ((k, other) :: rest) name = [] := by
          refine Members.valuesOf_eq_nil fun m hm => ?_
          rcases List.mem_cons.mp hm with rfl | hm
          · exact h ▸ (String.ne_of_lt hlt).symm
          · exact h ▸ (String.ne_of_lt (String.lt_trans hlt (hfirst m hm))).symm
        rw [if_pos h, if_pos ⟨h, hnone⟩, hnone]
      · rw [if_neg h, if_neg fun hand => h hand.1]
    · split
      · rename_i hk
        rw [if_neg fun hand => ?_]
        rw [Members.valuesOf_cons, if_pos (hk ▸ hand.1)] at hand
        exact List.cons_ne_nil _ _ hand.2
      · rename_i hk
        rw [Members.valuesOf_cons, Members.valuesOf_cons, ih hrest]
        by_cases h : k = name
        · have hn : n ≠ name := fun hn => hk (hn.trans h.symm)
          simp [h, hn]
        · simp [h]

/-- A name stands once among sorted members, with the last of its values. -/
theorem valuesOf_sortedMembers (members : Members) (name : String) :
    Members.valuesOf (sortedMembers members) name =
      ((members.valuesOf name).getLast?.map sorted).toList := by
  induction members with
  | nil => rfl
  | cons m members ih =>
    obtain ⟨n, value⟩ := m
    rw [sortedMembers, Members.valuesOf_insertNew (sortedMembers_ordered members), ih,
      Members.valuesOf_cons]
    by_cases h : n = name
    · cases Members.valuesOf members name <;> simp [h, List.getLast?_cons]
    · simp [h]

/-- Of several members of one name the last is kept. -/
theorem get?_sortedMembers (members : Members) (name : String) :
    Members.get? (sortedMembers members) name =
      (members.valuesOf name).getLast?.map sorted := by
  rw [Members.get?_eq_getLast?, valuesOf_sortedMembers]
  cases (members.valuesOf name).getLast? <;> rfl

/-- Sorting leaves texts as they are and makes none. -/
theorem sorted_eq_string_iff {value : Json} {text : String} :
    value.sorted = .string text ↔ value = .string text := by
  cases value <;> simp [sorted]

/-- Sorted objects come from objects. -/
theorem sorted_eq_object_iff {value : Json} {kept : Members} :
    value.sorted = .object kept ↔
      ∃ members, value = .object members ∧ kept = sortedMembers members := by
  cases value <;> simp [sorted, eq_comm]

end Objects

end CredentialIssuer.Json
