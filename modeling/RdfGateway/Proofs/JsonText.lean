import RdfGateway.Json.Printer
import RdfGateway.Json.Reader

/-!
# A JSON value is read back from its text

A value without numbers of which every string has a text (`Json.isWorded`) is read back from its
text (`Json.parse?_render`), whatever characters its strings are made of.

Proof. What is written of a value is read as the value in front of whatever follows it
(`value_render`); of a string the same (`stringPieces_stringChars`), where a control character comes
back from the four digits of its number. Every level of nesting takes two calls and at least one
character, so twice the length of the text is fuel enough.
-/

namespace RdfGateway.Json

open RdfGateway.Text

/-! ## Strings -/

theorem hexNumber?_hexDigits_four {n : Nat} (h : n < 0x10000) :
    hexNumber? (hexDigits 4 n) = some n := by
  have hdigit (m : Nat) : hexValue? (hexDigit (m % 16)) = some (m % 16) :=
    hexValue?_hexDigit (Nat.mod_lt m (by decide))
  simp [hexDigits, hexNumber?, hdigit]
  omega

/-- The part of a string that a written character is read as. -/
def pieceOf (c : Char) : Piece :=
  if c.toNat < 0x20 then .unit c.toNat else .char c

theorem stringPieces_stringChar (c : Char) (rest : List Char) :
    stringPieces (stringChar c ++ rest) =
      (stringPieces rest).bind fun (pieces, rest) => some (pieceOf c :: pieces, rest) := by
  unfold stringChar
  split
  · rfl
  · rfl
  · rename_i hquote hbackslash
    by_cases hcontrol : c.toNat < 0x20
    · have hnumber : hexNumber? (hexDigits 4 c.toNat) = some c.toNat :=
        hexNumber?_hexDigits_four (by omega)
      rw [if_pos hcontrol, pieceOf, if_pos hcontrol]
      simp only [hexDigits, List.nil_append, List.cons_append] at hnumber ⊢
      rw [stringPieces, hnumber]
      rfl
    · rw [if_neg hcontrol, pieceOf, if_neg hcontrol, List.singleton_append, stringPieces]
      · have hne : c ≠ '\\' := hbackslash
        simp [hcontrol, hne]
      · exact hquote
      · exact fun _ _ _ _ _ hc _ => hbackslash hc
      · exact fun _ _ hc _ => hbackslash hc

theorem stringPieces_stringChars (text rest : List Char) :
    stringPieces (text.flatMap stringChar ++ '"' :: rest) = some (text.map pieceOf, rest) := by
  induction text with
  | nil => simp [stringPieces]
  | cons c text ih =>
    rw [List.flatMap_cons, List.append_assoc, stringPieces_stringChar, ih]
    rfl

theorem scalar?_toNat (c : Char) : scalar? c.toNat = some c := by
  have hvalid : c.toNat.isValidChar := c.valid
  rw [scalar?, if_pos hvalid, Char.ofNat_toNat]

/-- A unit that is not the first one of a pair is a character of its own, whatever follows it. -/
theorem assemble?_unit_cons {n : Nat} (h : isHighUnit n = false) (pieces : List Piece) :
    assemble? (.unit n :: pieces) =
      (scalar? n).bind fun c => (c :: ·) <$> assemble? pieces := by
  cases pieces with
  | nil => rfl
  | cons piece pieces =>
    cases piece with
    | char => rfl
    | unit m =>
      rw [assemble?, h]
      rfl

theorem assemble?_pieceOf (text : List Char) : assemble? (text.map pieceOf) = some text := by
  induction text with
  | nil => rfl
  | cons c text ih =>
    rw [List.map_cons, pieceOf]
    by_cases hcontrol : c.toNat < 0x20
    · have hlow : isHighUnit c.toNat = false := by
        simp only [isHighUnit, Bool.and_eq_false_iff, decide_eq_false_iff_not]
        omega
      rw [if_pos hcontrol, assemble?_unit_cons hlow, scalar?_toNat, ih]
      rfl
    · rw [if_neg hcontrol, assemble?, ih]
      rfl

theorem stringValue_quoted (text : String) (rest : List Char) :
    stringValue (text.toList.flatMap stringChar ++ '"' :: rest) = some (some text, rest) := by
  simp [stringValue, stringPieces_stringChars, assemble?_pieceOf]

/-! ## Values -/

mutual

/-- The value has no number, and every string of it has a text. -/
def isWorded : Json → Bool
  | .null | .bool _ => true
  | .number _ => false
  | .string text => text.isSome
  | .array items => areWorded items
  | .object members => membersWorded members

def areWorded : List Json → Bool
  | [] => true
  | item :: rest => isWorded item && areWorded rest

def membersWorded : List (Option String × Json) → Bool
  | [] => true
  | (key, value) :: rest => key.isSome && isWorded value && membersWorded rest

end

/-- What is written between the brackets of an array. -/
def itemsText (items : List Json) : List Char := (",".intercalate (renderItems items)).toList

def membersText (members : List (Option String × Json)) : List Char :=
  (",".intercalate (renderMembers members)).toList

theorem itemsText_singleton (item : Json) : itemsText [item] = item.render.toList := by
  simp [itemsText, renderItems]

theorem itemsText_cons_cons (item next : Json) (rest : List Json) :
    itemsText (item :: next :: rest) = item.render.toList ++ ',' :: itemsText (next :: rest) := by
  simp [itemsText, renderItems, String.intercalate_cons_cons]

theorem membersText_singleton (key : String) (value : Json) :
    membersText [(some key, value)] =
      '"' :: (key.toList.flatMap stringChar ++ '"' :: ':' :: value.render.toList) := by
  simp [membersText, renderMembers, quote]

theorem membersText_cons_cons (key : String) (value : Json) (next : Option String × Json)
    (rest : List (Option String × Json)) :
    membersText ((some key, value) :: next :: rest) =
      '"' :: (key.toList.flatMap stringChar ++ '"' :: ':' :: (value.render.toList ++
        ',' :: membersText (next :: rest))) := by
  simp [membersText, renderMembers, quote, String.intercalate_cons_cons]

theorem toList_render_array (items : List Json) :
    (Json.array items).render.toList = '[' :: (itemsText items ++ [']']) := by
  simp [render, itemsText]

theorem toList_render_object (members : List (Option String × Json)) :
    (Json.object members).render.toList = '\x7b' :: (membersText members ++ ['\x7d']) := by
  simp [render, membersText]

theorem toList_render_string (text : String) :
    (Json.string (some text)).render.toList = '"' :: (text.toList.flatMap stringChar ++ ['"']) := by
  simp [render, quote]

/-- A value begins with a character that is neither space nor the end of an array. -/
theorem exists_render_eq_cons {json : Json} (h : json.isWorded = true) :
    ∃ c text, json.render.toList = c :: text ∧ isSpace c = false ∧ c ≠ ']' := by
  cases json with
  | null => exact ⟨'n', _, rfl, rfl, by decide⟩
  | bool value => cases value <;> exact ⟨_, _, rfl, rfl, by decide⟩
  | number => cases h
  | string text =>
    obtain ⟨text, rfl⟩ := Option.isSome_iff_exists.mp h
    exact ⟨_, _, toList_render_string text, rfl, by decide⟩
  | array items => exact ⟨_, _, toList_render_array items, rfl, by decide⟩
  | object members => exact ⟨_, _, toList_render_object members, rfl, by decide⟩

theorem exists_itemsText_eq_cons {item : Json} {others : List Json}
    (h : areWorded (item :: others) = true) :
    ∃ c text, itemsText (item :: others) = c :: text ∧ isSpace c = false ∧ c ≠ ']' := by
  rw [areWorded, Bool.and_eq_true] at h
  obtain ⟨c, text, htext, hc⟩ := exists_render_eq_cons h.1
  cases others with
  | nil => exact ⟨c, text, by rw [itemsText_singleton, htext], hc⟩
  | cons next others => exact ⟨c, _, by rw [itemsText_cons_cons, htext, List.cons_append], hc⟩

theorem exists_membersText_eq_cons (member : Option String × Json)
    (others : List (Option String × Json)) :
    ∃ text, membersText (member :: others) = '"' :: text := by
  cases others <;> simp [membersText, renderMembers, quote, String.intercalate_cons_cons]

theorem skipSpace_cons {c : Char} (h : isSpace c = false) (text : List Char) :
    skipSpace (c :: text) = c :: text := by
  rw [skipSpace, List.dropWhile_cons_of_neg (by simp [h])]

/-- What is written of the value is read as the value in front of whatever follows it. -/
def IsRead (json : Json) : Prop :=
  ∀ fuel rest, 2 * json.render.toList.length ≤ fuel →
    value fuel (json.render.toList ++ rest) = some (json, rest)

theorem items_itemsText {items : List Json} (hne : items ≠ []) (h : ∀ item ∈ items, IsRead item)
    (fuel : Nat) (rest : List Char) (hfuel : 2 * (itemsText items).length < fuel) :
    Json.items fuel (itemsText items ++ ']' :: rest) = some (items, rest) := by
  induction items generalizing fuel with
  | nil => exact absurd rfl hne
  | cons item others ih =>
    obtain ⟨fuel, rfl⟩ : ∃ less, fuel = less + 1 := ⟨fuel - 1, by omega⟩
    rw [List.forall_mem_cons] at h
    cases others with
    | nil =>
      rw [itemsText_singleton] at hfuel ⊢
      rw [Json.items, h.1 fuel (']' :: rest) (by omega)]
      rfl
    | cons next others =>
      rw [itemsText_cons_cons, List.length_append, List.length_cons] at hfuel
      have hothers : Json.items fuel (itemsText (next :: others) ++ ']' :: rest) =
          some (next :: others, rest) := ih (List.cons_ne_nil _ _) h.2 fuel (by omega)
      rw [itemsText_cons_cons, List.append_assoc, Json.items, h.1 fuel _ (by omega)]
      simp [skipSpace_cons, isSpace, hothers]

theorem members_membersText {members : List (Option String × Json)} (hne : members ≠ [])
    (h : ∀ member ∈ members, member.1.isSome = true ∧ IsRead member.2) (fuel : Nat)
    (rest : List Char) (hfuel : 2 * (membersText members).length < fuel) :
    Json.members fuel (membersText members ++ '\x7d' :: rest) = some (members, rest) := by
  induction members generalizing fuel with
  | nil => exact absurd rfl hne
  | cons member others ih =>
    obtain ⟨fuel, rfl⟩ : ∃ less, fuel = less + 1 := ⟨fuel - 1, by omega⟩
    rw [List.forall_mem_cons] at h
    obtain ⟨key, json⟩ := member
    obtain ⟨⟨hkey, hread : IsRead json⟩, hothers⟩ := h
    obtain ⟨key, rfl⟩ := Option.isSome_iff_exists.mp hkey
    cases others with
    | nil =>
      rw [membersText_singleton] at hfuel ⊢
      simp only [List.length_cons, List.length_append] at hfuel
      have hvalue := hread fuel ('\x7d' :: rest) (by omega)
      simp [Json.members, skipSpace_cons, isSpace, stringValue_quoted, hvalue]
    | cons next others =>
      rw [membersText_cons_cons] at hfuel ⊢
      simp only [List.length_cons, List.length_append] at hfuel
      have hothers : Json.members fuel (membersText (next :: others) ++ '\x7d' :: rest) =
          some (next :: others, rest) := ih (List.cons_ne_nil _ _) hothers fuel (by omega)
      have hvalue := hread fuel (',' :: (membersText (next :: others) ++ '\x7d' :: rest)) (by omega)
      simp [Json.members, skipSpace_cons, isSpace, stringValue_quoted, hvalue, hothers]

theorem isRead_null : IsRead .null := by
  intro fuel rest hfuel
  obtain ⟨fuel, rfl⟩ : ∃ less, fuel = less + 1 := ⟨fuel - 1, by simp [render] at hfuel; omega⟩
  simp [render, value, skipSpace_cons, isSpace]

theorem isRead_bool (b : Bool) : IsRead (.bool b) := by
  intro fuel rest hfuel
  cases b
  all_goals
    obtain ⟨fuel, rfl⟩ : ∃ less, fuel = less + 1 := ⟨fuel - 1, by simp [render] at hfuel; omega⟩
    simp [render, value, skipSpace_cons, isSpace]

theorem isRead_string (text : String) : IsRead (.string (some text)) := by
  intro fuel rest hfuel
  rw [toList_render_string] at hfuel ⊢
  obtain ⟨fuel, rfl⟩ : ∃ less, fuel = less + 1 := ⟨fuel - 1, by simp at hfuel; omega⟩
  simp [value, skipSpace_cons, isSpace, stringValue_quoted]

theorem value_array {c : Char} (hspace : isSpace c = false) (hne : c ≠ ']') (fuel : Nat)
    (text : List Char) :
    value (fuel + 1) ('[' :: c :: text) =
      (Json.items fuel (c :: text)).bind fun (items, rest) => some (.array items, rest) := by
  have hopen : skipSpace ('[' :: c :: text) = '[' :: c :: text := skipSpace_cons rfl _
  simp only [value, hopen, skipSpace_cons hspace]
  split
  · rename_i hclose
    exact absurd (List.cons.inj hclose).1 hne
  · rfl

theorem isRead_array {items : List Json} (hworded : areWorded items = true)
    (h : ∀ item ∈ items, IsRead item) : IsRead (.array items) := by
  intro fuel rest hfuel
  rw [toList_render_array] at hfuel ⊢
  simp only [List.length_cons, List.length_append] at hfuel
  obtain ⟨fuel, rfl⟩ : ∃ less, fuel = less + 1 := ⟨fuel - 1, by omega⟩
  cases items with
  | nil => simp [value, skipSpace_cons, isSpace, itemsText, renderItems]
  | cons item others =>
    obtain ⟨c, text, htext, hspace, hne⟩ := exists_itemsText_eq_cons hworded
    have hitems := items_itemsText (List.cons_ne_nil item others) h fuel rest (by omega)
    rw [htext, List.cons_append] at hitems
    simp [htext, value_array hspace hne, hitems]

theorem isRead_object {members : List (Option String × Json)}
    (h : ∀ member ∈ members, member.1.isSome = true ∧ IsRead member.2) :
    IsRead (.object members) := by
  intro fuel rest hfuel
  rw [toList_render_object] at hfuel ⊢
  simp only [List.length_cons, List.length_append] at hfuel
  obtain ⟨fuel, rfl⟩ : ∃ less, fuel = less + 1 := ⟨fuel - 1, by omega⟩
  cases members with
  | nil => simp [value, skipSpace_cons, isSpace, membersText, renderMembers]
  | cons member others =>
    have hmembers := members_membersText (List.cons_ne_nil member others) h fuel rest (by omega)
    obtain ⟨text, htext⟩ := exists_membersText_eq_cons member others
    rw [htext, List.cons_append] at hmembers
    simp [htext, value, skipSpace_cons, isSpace, hmembers]

mutual

/-- **What is written of a value is read as the value**, whatever follows it. -/
theorem isRead : (json : Json) → json.isWorded = true → IsRead json
  | .null, _ => isRead_null
  | .bool b, _ => isRead_bool b
  | .number _, h => by cases h
  | .string none, h => by cases h
  | .string (some text), _ => isRead_string text
  | .array items, h => isRead_array h (areRead items h)
  | .object members, h => isRead_object (membersRead members h)

theorem areRead : (items : List Json) → areWorded items = true → ∀ item ∈ items, IsRead item
  | [], _ => fun _ hitem => absurd hitem List.not_mem_nil
  | item :: rest, h => by
    rw [areWorded, Bool.and_eq_true] at h
    exact List.forall_mem_cons.mpr ⟨isRead item h.1, areRead rest h.2⟩

theorem membersRead : (members : List (Option String × Json)) → membersWorded members = true →
    ∀ member ∈ members, member.1.isSome = true ∧ IsRead member.2
  | [], _ => fun _ hmember => absurd hmember List.not_mem_nil
  | (key, value) :: rest, h => by
    rw [membersWorded, Bool.and_eq_true, Bool.and_eq_true] at h
    exact List.forall_mem_cons.mpr ⟨⟨h.1.1, isRead value h.1.2⟩, membersRead rest h.2⟩

end

/-- **A worded value is read back from its text.** -/
theorem parse?_render {json : Json} (h : json.isWorded = true) :
    parse? json.render = some json := by
  have hvalue := isRead json h (2 * json.render.toList.length + 2) [] (by omega)
  rw [List.append_nil] at hvalue
  simp [parse?, hvalue, skipSpace]

end RdfGateway.Json
