import RdfGateway.Text.Hex

/-!
# Quoted texts in TOML

A text stands between double quotes, where a backslash begins an escape, or between single quotes,
where every character stands for itself. Three quotes of either kind open a text of several lines:
a line break right after them is not part of it, and up to two quotes may stand before the three
that close it.
-/

namespace RdfGateway.Toml

open RdfGateway.Text

/-- White space inside a line. -/
def isGap (c : Char) : Bool := c == ' ' || c == '\t'

/-- The character may be written as it is inside a line. -/
def isWritable (c : Char) : Bool := c == '\t' || (0x20 ≤ c.toNat && c.toNat != 0x7F)

/-- The character that a one-letter escape stands for. -/
def escaped? : Char → Option Char
  | 'b' => some '\x08'
  | 't' => some '\t'
  | 'n' => some '\n'
  | 'f' => some '\x0c'
  | 'r' => some '\r'
  | '"' => some '"'
  | '\\' => some '\\'
  | _ => none

/-- The character of an escape, and the text after it. The text begins behind the backslash. -/
def escape? : List Char → Option (Char × List Char)
  | 'u' :: text => do
    if text.length < 4 then none
    else return (← scalar? (← hexNumber? (text.take 4)), text.drop 4)
  | 'U' :: text => do
    if text.length < 8 then none
    else return (← scalar? (← hexNumber? (text.take 8)), text.drop 8)
  | c :: text => (escaped? c).map (·, text)
  | [] => none

theorem escape?_length {text rest : List Char} {c : Char} (h : escape? text = some (c, rest)) :
    rest.length < text.length := by
  unfold escape? at h
  split at h
  · split at h
    · simp at h
    · obtain ⟨_, _, h⟩ := Option.bind_eq_some_iff.1 h
      obtain ⟨_, _, h⟩ := Option.bind_eq_some_iff.1 h
      cases h
      rw [List.length_drop, List.length_cons]
      omega
  · split at h
    · simp at h
    · obtain ⟨_, _, h⟩ := Option.bind_eq_some_iff.1 h
      obtain ⟨_, _, h⟩ := Option.bind_eq_some_iff.1 h
      cases h
      rw [List.length_drop, List.length_cons]
      omega
  · obtain ⟨_, _, h⟩ := Option.map_eq_some_iff.1 h
    cases h
    simp
  · simp at h

/-- A text of one line in double quotes, from behind the opening quote. -/
def inDoubleQuotes (text : List Char) : Option (List Char × List Char) :=
  match text with
  | [] => none
  | '"' :: rest => some ([], rest)
  | '\\' :: rest =>
    match _h : escape? rest with
    | none => none
    | some (c, rest) => do
      let (cs, rest) ← inDoubleQuotes rest
      return (c :: cs, rest)
  | c :: rest =>
    if isWritable c then do
      let (cs, rest) ← inDoubleQuotes rest
      return (c :: cs, rest)
    else none
termination_by text.length
decreasing_by
  · have := escape?_length _h
    rw [List.length_cons]
    omega
  · rw [List.length_cons]
    omega

/-- A text of one line in single quotes, from behind the opening quote. -/
def inSingleQuotes : List Char → Option (List Char × List Char)
  | [] => none
  | '\'' :: rest => some ([], rest)
  | c :: rest =>
    if isWritable c then do
      let (cs, rest) ← inSingleQuotes rest
      return (c :: cs, rest)
    else none

/-- The quotes that still belong to a text of several lines behind three quotes that close it. -/
def closing (quote : Char) : List Char → List Char × List Char
  | a :: b :: rest =>
    if a = quote then if b = quote then ([a, b], rest) else ([a], b :: rest)
    else ([], a :: b :: rest)
  | [a] => if a = quote then ([a], []) else ([], [a])
  | [] => ([], [])

/-- A text without the line break at its front. -/
def afterBreak? : List Char → Option (List Char)
  | '\n' :: rest => some rest
  | '\r' :: '\n' :: rest => some rest
  | _ => none

theorem afterBreak?_length {text rest : List Char} (h : afterBreak? text = some rest) :
    rest.length < text.length := by
  unfold afterBreak? at h
  split at h
  · cases h
    simp
  · cases h
    simp only [List.length_cons]
    omega
  · simp at h

/-- A text without white space and line breaks at its front. -/
def skipBreaks : List Char → List Char
  | '\r' :: '\n' :: rest => skipBreaks rest
  | c :: rest => if isGap c || c == '\n' then skipBreaks rest else c :: rest
  | [] => []

theorem skipBreaks_length (text : List Char) : (skipBreaks text).length ≤ text.length := by
  fun_induction skipBreaks text with
  | case1 _ ih =>
    simp only [List.length_cons]
    omega
  | case2 _ _ _ _ ih =>
    rw [List.length_cons]
    omega
  | case3 => simp
  | case4 => simp

/-- The text behind a backslash that hides a line break and the white space that follows. -/
def hiddenBreak? (text : List Char) : Option (List Char) :=
  (afterBreak? (text.dropWhile isGap)).map skipBreaks

theorem hiddenBreak?_length {text rest : List Char} (h : hiddenBreak? text = some rest) :
    rest.length < text.length := by
  obtain ⟨after, ha, rfl⟩ := Option.map_eq_some_iff.1 h
  have h1 := afterBreak?_length ha
  have h2 := skipBreaks_length after
  have h3 := (List.dropWhile_sublist isGap (l := text)).length_le
  omega

/-- A text of several lines in double quotes. -/
def inLongDoubleQuotes (text : List Char) : Option (List Char × List Char) :=
  match text with
  | [] => none
  | '"' :: '"' :: '"' :: rest => some (closing '"' rest)
  | '\\' :: rest =>
    match _hb : hiddenBreak? rest with
    | some rest => inLongDoubleQuotes rest
    | none =>
      match _he : escape? rest with
      | none => none
      | some (c, rest) => do
        let (cs, rest) ← inLongDoubleQuotes rest
        return (c :: cs, rest)
  | '\r' :: '\n' :: rest => do
    let (cs, rest) ← inLongDoubleQuotes rest
    return ('\n' :: cs, rest)
  | c :: rest =>
    if isWritable c || c == '\n' then do
      let (cs, rest) ← inLongDoubleQuotes rest
      return (c :: cs, rest)
    else none
termination_by text.length
decreasing_by
  · have := hiddenBreak?_length _hb
    rw [List.length_cons]
    omega
  · have := escape?_length _he
    rw [List.length_cons]
    omega
  · simp only [List.length_cons]
    omega
  · rw [List.length_cons]
    omega

/-- A text of several lines in single quotes. -/
def inLongSingleQuotes : List Char → Option (List Char × List Char)
  | [] => none
  | '\'' :: '\'' :: '\'' :: rest => some (closing '\'' rest)
  | '\r' :: '\n' :: rest => do
    let (cs, rest) ← inLongSingleQuotes rest
    return ('\n' :: cs, rest)
  | c :: rest =>
    if isWritable c || c == '\n' then do
      let (cs, rest) ← inLongSingleQuotes rest
      return (c :: cs, rest)
    else none

/-- A quoted text at the front of a text, and what follows it. -/
def quotedText? : List Char → Option (List Char × List Char)
  | '"' :: '"' :: '"' :: rest => inLongDoubleQuotes ((afterBreak? rest).getD rest)
  | '"' :: rest => inDoubleQuotes rest
  | '\'' :: '\'' :: '\'' :: rest => inLongSingleQuotes ((afterBreak? rest).getD rest)
  | '\'' :: rest => inSingleQuotes rest
  | _ => none

end RdfGateway.Toml
