import Jukebox.Proofs.Text.Utf8
import Jukebox.Proofs.Text.Pieces
import Jukebox.Url.Percent
import Mathlib.Data.List.Basic

/-!
# Reading form encoding

What a server makes of a query: pieces between ampersands, of which empty ones are left out, each with a name before
the first equals sign and a value after it; a plus sign stands for a space, and what is percent-encoded for the bytes
of a text in UTF-8.  Pairs that are appended to a query are read back after the pairs of the query, whatever they
contain (`pairs_appendPairs`).
-/

namespace Jukebox

namespace Url

/-! ### Percent decoding -/

private theorem hexPair?_hexDigit (b : UInt8) :
    hexPair? (Text.hexDigit 'A' (b.toNat / 16)) (Text.hexDigit 'A' (b.toNat % 16)) = some b := by
  have hb : b.toNat < 256 := b.toNat_lt
  have hsum : b.toNat / 16 * 16 + b.toNat % 16 = b.toNat := by omega
  simp only [hexPair?, Text.hexDigit?_hexDigit_upper (b.toNat / 16) (by omega),
    Text.hexDigit?_hexDigit_upper (b.toNat % 16) (by omega), Option.bind_eq_bind, Option.bind_some, Option.pure_def,
    hsum, UInt8.ofNat_toNat]

private theorem percentDecode_percentByte (b : UInt8) (rest : List Char) :
    percentDecode (percentByte b ++ rest) = b :: percentDecode rest := by
  simp [percentByte, percentDecode, hexPair?_hexDigit]

private theorem percentDecode_percentBytes (bytes : List UInt8) (rest : List Char) :
    percentDecode (bytes.flatMap percentByte ++ rest) = bytes ++ percentDecode rest := by
  induction bytes with
  | nil => rfl
  | cons b bytes ih => rw [List.flatMap_cons, List.append_assoc, percentDecode_percentByte, ih, List.cons_append]

private theorem percentDecode_cons {c : Char} (h : c ≠ '%') (rest : List Char) :
    percentDecode (c :: rest) = String.utf8EncodeChar c ++ percentDecode rest := by
  rw [percentDecode]
  rintro a b rest' rfl
  exact absurd rfl h

namespace Form

/-! ### The characters of encoded texts -/

private theorem isPlain_hexDigit : ∀ n < 16, isPlain (Text.hexDigit 'A' n) = true := by decide

theorem mem_percentChar {c d : Char} (h : d ∈ percentChar c) : d = '%' ∨ isPlain d = true := by
  obtain ⟨b, -, hb⟩ := List.mem_flatMap.mp h
  have hbyte : b.toNat < 256 := b.toNat_lt
  simp only [percentByte, List.mem_cons, List.not_mem_nil, or_false] at hb
  rcases hb with rfl | rfl | rfl
  · exact .inl rfl
  · exact .inr (isPlain_hexDigit _ (by omega))
  · exact .inr (isPlain_hexDigit _ (by omega))

/-- Encoded texts are made of plus signs, percent signs and characters that stand for themselves. -/
theorem mem_encode {s : String} {d : Char} (h : d ∈ encode s) : d = '+' ∨ d = '%' ∨ isPlain d = true := by
  obtain ⟨c, -, hc⟩ := List.mem_flatMap.mp h
  rw [encodeChar] at hc
  split at hc
  · exact .inl (List.mem_singleton.mp hc)
  · split at hc
    · rename_i hplain
      rw [List.mem_singleton.mp hc]
      exact .inr (.inr hplain)
    · exact .inr (mem_percentChar hc)

theorem ne_of_isPlain {c d : Char} (h : isPlain c = true) (hd : isPlain d = false) : c ≠ d := by
  rintro rfl
  exact absurd h (by simp [hd])

/-- No encoded text contains a character that separates. -/
private theorem not_mem_encode {c : Char} (hplus : c ≠ '+') (hpercent : c ≠ '%') (hc : isPlain c = false) (s : String) :
    c ∉ encode s := by
  intro h
  rcases mem_encode h with h | h | h
  · exact hplus h
  · exact hpercent h
  · exact ne_of_isPlain h hc rfl

/-! ### Reading -/

/-- A plus sign stands for a space. -/
def unplus (c : Char) : Char := if c = '+' then ' ' else c

/-- The text that an encoded name or value stands for. -/
def decode (cs : List Char) : String := Text.decodeUtf8 (percentDecode (cs.map unplus))

/-- The name before the first equals sign, and the value after it. -/
def readPair (cs : List Char) : String × String :=
  (decode (cs.takeWhile (· ≠ '=')), decode ((cs.dropWhile (· ≠ '=')).drop 1))

/-- The pairs of a query. -/
def pairs (query : List Char) : List (String × String) := (Text.words (· = '&') query).map readPair

private theorem unplus_of_ne {c : Char} (h : c ≠ '+') : unplus c = c := if_neg h

private theorem map_unplus_percentChar (c : Char) : (percentChar c).map unplus = percentChar c := by
  have hsame : ∀ d ∈ percentChar c, unplus d = d := by
    intro d hd
    rcases mem_percentChar hd with rfl | hplain
    · rfl
    · exact unplus_of_ne (ne_of_isPlain hplain (by decide))
  rw [List.map_congr_left hsame, List.map_id']

/-- One encoded character is read as the bytes of the character. -/
private theorem percentDecode_encodeChar (c : Char) (rest : List Char) :
    percentDecode ((encodeChar c ++ rest).map unplus) = String.utf8EncodeChar c ++ percentDecode (rest.map unplus) := by
  rw [List.map_append, encodeChar]
  split
  · rename_i hspace
    subst hspace
    exact percentDecode_cons (by decide) _
  · split
    · rename_i hplain
      rw [List.map_singleton, unplus_of_ne (ne_of_isPlain hplain (by decide))]
      exact percentDecode_cons (ne_of_isPlain hplain (by decide)) _
    · rw [map_unplus_percentChar]
      exact percentDecode_percentBytes _ _

/-- Every text is read back from its encoded form. -/
private theorem decode_encode (s : String) : decode (encode s) = s := by
  have hbytes : ∀ cs : List Char,
      percentDecode ((cs.flatMap encodeChar).map unplus) = cs.flatMap String.utf8EncodeChar := by
    intro cs
    induction cs with
    | nil => rfl
    | cons c cs ih => rw [List.flatMap_cons, percentDecode_encodeChar, ih, List.flatMap_cons]
  rw [decode, encode, hbytes, Text.decodeUtf8_encode]

private theorem readPair_encodePair (pair : String × String) : readPair (encodePair pair) = pair := by
  have hname : ∀ c ∈ encode pair.1, decide (c ≠ '=') = true := by
    intro c hc
    exact decide_eq_true fun heq => not_mem_encode (by decide) (by decide) (by decide) pair.1 (heq ▸ hc)
  rw [readPair, encodePair, List.takeWhile_append_of_pos hname, List.dropWhile_append_of_pos hname]
  simp [decode_encode]

/-! ### Pairs -/

@[simp] theorem pairs_nil : pairs [] = [] := rfl

private theorem pairs_append (query rest : List Char) : pairs (query ++ '&' :: rest) = pairs query ++ pairs rest := by
  rw [pairs, Text.words_append (by decide), List.map_append, pairs, pairs]

private theorem pairs_encodePair (pair : String × String) : pairs (encodePair pair) = [pair] := by
  have hnone : ∀ c ∈ encodePair pair, decide (c = '&') = false := by
    intro c hc
    refine decide_eq_false fun heq => ?_
    subst heq
    rcases List.mem_append.mp hc with hc | hc
    · exact not_mem_encode (by decide) (by decide) (by decide) _ hc
    · rcases List.mem_cons.mp hc with hc | hc
      · exact absurd hc (by decide)
      · exact not_mem_encode (by decide) (by decide) (by decide) _ hc
  have hwords : Text.words (· = '&') (encodePair pair) = [encodePair pair] := by
    rw [Text.words, Text.splitAt_eq_singleton hnone]
    simp [encodePair]
  rw [pairs, hwords, List.map_singleton, readPair_encodePair]

private theorem pairs_appendPair (query : List Char) (pair : String × String) :
    pairs (appendPair query pair) = pairs query ++ [pair] := by
  rw [appendPair]
  split
  · rename_i hempty
    rw [List.isEmpty_iff.mp hempty, pairs_nil, List.nil_append, pairs_encodePair]
  · rw [pairs_append, pairs_encodePair]

/-- Appended pairs are read back after the pairs of the query, each name and value as it was. -/
theorem pairs_appendPairs (query : List Char) (ps : List (String × String)) :
    pairs (appendPairs query ps) = pairs query ++ ps := by
  induction ps generalizing query with
  | nil => exact (List.append_nil _).symm
  | cons p ps ih =>
    have hrest := ih (appendPair query p)
    rw [pairs_appendPair, List.append_assoc, List.singleton_append] at hrest
    exact hrest

example : pairs (appendPairs "a=1&&b".toList [("&=+% ", "é\r\n")]) = [("a", "1"), ("b", ""), ("&=+% ", "é\r\n")] := by
  decide +kernel

end Form

end Url

end Jukebox
