import LiveTelemetry.Proofs.Text.Utf8
import LiveTelemetry.Url.Parser
import Mathlib.Tactic.Common

/-!
Percent-encoding. Main statement: where the percent sign itself is encoded, decoding gives back the
octets of the text, and a text is written as a dot segment only if it is one.
-/
namespace LiveTelemetry.Url

lemma upperHexDigit_mod (n : Nat) : upperHexDigit (n % 16) = upperHexDigit n := by
  rw [upperHexDigit, upperHexDigit, Nat.mod_mod]

lemma hexDigit?_upperHexDigit (n : Nat) : hexDigit? (upperHexDigit n) = some (n % 16) := by
  have hall : ∀ m < 16, hexDigit? (upperHexDigit m) = some m := by decide
  rw [← upperHexDigit_mod]
  exact hall _ (Nat.mod_lt _ (by decide))

lemma percentDecode_cons {c : Char} (hc : c ≠ '%') (r : List Char) :
    percentDecode (c :: r) = String.utf8EncodeChar c ++ percentDecode r := by
  rw [percentDecode.eq_def]
  split
  · next h => cases h
  · next h =>
    cases h
    exact absurd rfl hc
  · next h =>
    cases h
    rfl

lemma percentDecode_percentOctet (b : UInt8) (r : List Char) :
    percentDecode (percentOctet b ++ r) = b :: percentDecode r := by
  have hb : b.toNat < 256 := b.toNat_lt
  have ho : hexOctet? (upperHexDigit (b.toNat / 16)) (upperHexDigit b.toNat) = some b := by
    simp only [hexOctet?, hexDigit?_upperHexDigit, Option.some.injEq]
    exact Text.Utf8.uint8_eq_ofNat (by omega)
  simp only [percentOctet, List.cons_append, List.nil_append, percentDecode, ho]

lemma percentDecode_octets (bs : List UInt8) (r : List Char) :
    percentDecode (bs.flatMap percentOctet ++ r) = bs ++ percentDecode r := by
  induction bs with
  | nil => rfl
  | cons b bs ih =>
    rw [List.flatMap_cons, List.append_assoc, percentDecode_percentOctet, ih, List.cons_append]

/-- Decoding undoes encoding, byte for byte. -/
theorem percentDecode_percentEncode {set : EncodeSet} (hset : set '%' = true) (cs : List Char) :
    percentDecode (percentEncode set cs) = cs.flatMap String.utf8EncodeChar := by
  induction cs with
  | nil => rfl
  | cons c cs ih =>
    rw [List.flatMap_cons, ← ih, percentEncode, List.flatMap_cons]
    cases hc : set c with
    | true => exact percentDecode_octets _ _
    | false =>
      refine percentDecode_cons ?_ _
      rintro rfl
      exact Bool.false_ne_true (hc.symm.trans hset)

/-- What is written in encoded form stands for one text only. -/
lemma eq_of_percentDecode {set : EncodeSet} (hset : set '%' = true) {cs ds : List Char}
    (h : percentDecode (percentEncode set cs) = ds.flatMap String.utf8EncodeChar) : cs = ds := by
  have h' : Text.Utf8.encode (String.ofList cs) = Text.Utf8.encode (String.ofList ds) := by
    simp only [Text.Utf8.encode, String.toList_ofList]
    rw [← percentDecode_percentEncode hset, h]
  exact String.ofList_injective (Text.Utf8.encode_injective h')

/-- Only capital letters change with their case. -/
lemma eq_or_of_toLower {c d : Char} (h : c.toLower = d) :
    c = d ∨ 65 ≤ c.toNat ∧ c.toNat ≤ 90 ∧ d.toNat = c.toNat + 32 := by
  unfold Char.toLower at h
  split_ifs at h with hc
  · have hlow : 65 ≤ c.toNat := hc.1
    have hhigh : c.toNat ≤ 90 := hc.2
    refine .inr ⟨hlow, hhigh, ?_⟩
    rw [← h]
    change (c.val + ('a'.val - 'A'.val)).toNat = c.val.toNat + 32
    rw [UInt32.toNat_add]
    exact Nat.mod_eq_of_lt (show c.toNat + 32 < _ by omega)
  · exact .inl h

lemma eq_of_toLower {c d : Char} (hd : d.toNat < 97) (h : c.toLower = d) : c = d := by
  obtain h | h := eq_or_of_toLower h
  · exact h
  · omega

lemma of_toLower_e {c : Char} (h : c.toLower = 'e') : c = 'e' ∨ c = 'E' := by
  obtain h | ⟨-, -, h⟩ := eq_or_of_toLower h
  · exact .inl h
  · refine .inr (Char.toNat_inj.1 ?_)
    have he : 'e'.toNat = 101 := rfl
    have hE : 'E'.toNat = 69 := rfl
    omega

/-- A dot decodes to a dot, however it is written. -/
lemma percentDecode_dot {cs : List Char}
    (h : cs.map Char.toLower = ['.'] ∨ cs.map Char.toLower = ['%', '2', 'e']) (r : List Char) :
    percentDecode (cs ++ r) = 0x2E :: percentDecode r := by
  obtain h | h := h
  · obtain ⟨c, _, rfl, hc, rfl⟩ : ∃ c l, cs = c :: l ∧ c.toLower = '.' ∧ l = [] := by
      simpa [List.map_eq_cons_iff] using h
    obtain rfl := eq_of_toLower (by decide) hc
    exact percentDecode_cons (by decide) r
  · obtain ⟨a, b, c, rfl, ha, hb, hc⟩ :
        ∃ a b c, cs = [a, b, c] ∧ a.toLower = '%' ∧ b.toLower = '2' ∧ c.toLower = 'e' := by
      simp only [List.map_eq_cons_iff, List.map_eq_nil_iff] at h
      obtain ⟨a, _, rfl, ha, b, _, rfl, hb, c, _, rfl, hc, rfl⟩ := h
      exact ⟨a, b, c, rfl, ha, hb, hc⟩
    obtain rfl := eq_of_toLower (by decide) ha
    obtain rfl := eq_of_toLower (by decide) hb
    obtain rfl | rfl := of_toLower_e hc <;> rfl

lemma map_toLower_of_ofList {cs ds : List Char}
    (h : String.ofList (cs.map Char.toLower) = String.ofList ds) : cs.map Char.toLower = ds :=
  String.ofList_injective h

lemma percentDecode_of_isSingleDot {cs : List Char} (h : isSingleDot cs = true) :
    percentDecode cs = ['.'].flatMap String.utf8EncodeChar := by
  have hcs : cs.map Char.toLower = ['.'] ∨ cs.map Char.toLower = ['%', '2', 'e'] := by
    simp only [isSingleDot, List.contains_iff_mem, List.mem_cons, List.not_mem_nil, or_false] at h
    exact h.imp map_toLower_of_ofList map_toLower_of_ofList
  have := percentDecode_dot hcs []
  rwa [List.append_nil] at this

lemma percentDecode_of_isDoubleDot {cs : List Char} (h : isDoubleDot cs = true) :
    percentDecode cs = ['.', '.'].flatMap String.utf8EncodeChar := by
  have hcs : ∃ ds es, cs.map Char.toLower = ds ++ es ∧ (ds = ['.'] ∨ ds = ['%', '2', 'e']) ∧
      (es = ['.'] ∨ es = ['%', '2', 'e']) := by
    simp only [isDoubleDot, List.contains_iff_mem, List.mem_cons, List.not_mem_nil, or_false] at h
    obtain h | h | h | h := h
    · exact ⟨['.'], ['.'], map_toLower_of_ofList h, .inl rfl, .inl rfl⟩
    · exact ⟨['.'], ['%', '2', 'e'], map_toLower_of_ofList h, .inl rfl, .inr rfl⟩
    · exact ⟨['%', '2', 'e'], ['.'], map_toLower_of_ofList h, .inr rfl, .inl rfl⟩
    · exact ⟨['%', '2', 'e'], ['%', '2', 'e'], map_toLower_of_ofList h, .inr rfl, .inr rfl⟩
  obtain ⟨ds, es, hcs, hds, hes⟩ := hcs
  obtain ⟨xs, ys, rfl, rfl, rfl⟩ := List.map_eq_append_iff.1 hcs
  have hys := percentDecode_dot hes []
  rw [List.append_nil] at hys
  rw [percentDecode_dot hds, hys]
  rfl

lemma percentEncode_dots {set : EncodeSet} (hdot : set '.' = false) (n : Nat) :
    percentEncode set (List.replicate n '.') = List.replicate n '.' := by
  induction n with
  | zero => rfl
  | succ n ih =>
    rw [List.replicate_succ, percentEncode, List.flatMap_cons, ← percentEncode, ih]
    simp only [hdot, Bool.false_eq_true, if_false, List.singleton_append]

section Segments

variable {set : EncodeSet} (hset : set '%' = true) (hdot : set '.' = false)

include hset hdot

/-- A text is written as a dot segment only if it is one. -/
theorem isSingleDot_percentEncode {cs : List Char} :
    isSingleDot (percentEncode set cs) = true ↔ cs = ['.'] := by
  constructor
  · exact fun h => eq_of_percentDecode hset (percentDecode_of_isSingleDot h)
  · rintro rfl
    exact (congrArg isSingleDot (percentEncode_dots hdot 1)).trans rfl

theorem isDoubleDot_percentEncode {cs : List Char} :
    isDoubleDot (percentEncode set cs) = true ↔ cs = ['.', '.'] := by
  constructor
  · exact fun h => eq_of_percentDecode hset (percentDecode_of_isDoubleDot h)
  · rintro rfl
    exact (congrArg isDoubleDot (percentEncode_dots hdot 2)).trans rfl

end Segments

end LiveTelemetry.Url
