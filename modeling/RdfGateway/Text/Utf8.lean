/-!
# Bytes as characters

A document arrives as bytes and is read as characters in UTF-8. A byte that starts no character is
kept in its place as `none`, so that a reader can refuse it where text counts and pass over it
where text does not.

* `characters_toByteArray`: the bytes of a text are read as the characters of the text.
-/

namespace RdfGateway.Text

/-- The characters from position `i` on, with `none` for each byte at which no character starts. -/
def charactersFrom (bytes : ByteArray) (i : Nat) : List (Option Char) :=
  if i < bytes.size then
    match bytes.utf8DecodeChar? i with
    | some c => some c :: charactersFrom bytes (i + c.utf8Size)
    | none => none :: charactersFrom bytes (i + 1)
  else
    []
termination_by bytes.size - i
decreasing_by
  · have := c.utf8Size_pos
    omega
  · omega

/-- The characters of a document, with `none` for each byte at which no character starts. -/
def characters (bytes : ByteArray) : List (Option Char) :=
  charactersFrom bytes 0

theorem size_utf8Encode_singleton (c : Char) : [c].utf8Encode.size = c.utf8Size := by
  rw [List.utf8Encode_singleton, List.size_toByteArray, String.length_utf8EncodeChar]

theorem charactersFrom_append_utf8Encode (before : ByteArray) (cs : List Char) :
    charactersFrom (before ++ cs.utf8Encode) before.size = cs.map some := by
  induction cs generalizing before with
  | nil => simp [charactersFrom]
  | cons c cs ih =>
    have hd : (before ++ (c :: cs).utf8Encode).utf8DecodeChar? before.size = some c := by
      rw [ByteArray.utf8DecodeChar?_eq_utf8DecodeChar?_extract, ByteArray.size_append,
        ByteArray.extract_append_eq_right rfl rfl]
      exact List.utf8DecodeChar?_utf8Encode_cons
    have hs : before.size < (before ++ (c :: cs).utf8Encode).size := by
      have := c.utf8Size_pos
      rw [ByteArray.size_append, List.utf8Encode_cons, ByteArray.size_append,
        size_utf8Encode_singleton]
      omega
    have ha : before ++ (c :: cs).utf8Encode = (before ++ [c].utf8Encode) ++ cs.utf8Encode := by
      rw [ByteArray.append_assoc, ← List.utf8Encode_append]
      rfl
    have hi : before.size + c.utf8Size = (before ++ [c].utf8Encode).size := by
      rw [ByteArray.size_append, size_utf8Encode_singleton]
    rw [charactersFrom, if_pos hs, hd]
    simp only [List.map_cons, List.cons.injEq, true_and]
    rw [ha, hi]
    exact ih _

/-- The bytes of a text are read as the characters of the text. -/
theorem characters_toByteArray (text : String) :
    characters text.toByteArray = text.toList.map some := by
  have h := charactersFrom_append_utf8Encode .empty text.toList
  simpa [characters] using h

end RdfGateway.Text
