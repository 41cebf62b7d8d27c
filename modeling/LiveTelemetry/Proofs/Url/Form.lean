import LiveTelemetry.Proofs.Url.PercentEncoding
import LiveTelemetry.Text.Parts

/-!
Forms and how they are read back. Main statement: pairs that are added to an address are read back
from its query as they were, behind the pairs that stood there before.
-/
namespace LiveTelemetry.Url

/-- A plus sign stands for a blank. -/
def unplus (c : Char) : Char := if c = '+' then ' ' else c

/-- The text that a name or a value of a form stands for; malformed octets are replaced. -/
def formDecode (cs : List Char) : String :=
  Text.Utf8.decodeLossy (percentDecode (cs.map unplus))

/-- Name and value of a part of a form. Without an equals sign the value is empty. -/
def readPair (cs : List Char) : String × String :=
  (formDecode (cs.takeWhile (· ≠ '=')), formDecode ((cs.dropWhile (· ≠ '=')).drop 1))

/-- The pairs of a form: its parts stand between ampersands, and empty ones do not count. -/
def readForm (cs : List Char) : List (String × String) :=
  ((Text.splitAt '&' cs).filter (· ≠ [])).map readPair

lemma readForm_append (as bs : List Char) :
    readForm (as ++ '&' :: bs) = readForm as ++ readForm bs := by
  rw [readForm, Text.splitAt_append, List.filter_append, List.map_append]
  rfl

/-! ### What is written of a text -/

lemma isFormChar_upperHexDigit (n : Nat) : isFormChar (upperHexDigit n) = true := by
  have hall : ∀ m < 16, isFormChar (upperHexDigit m) = true := by decide
  rw [← upperHexDigit_mod]
  exact hall _ (Nat.mod_lt n (by decide))

lemma mem_percentChar {c d : Char} (h : d ∈ percentChar c) : d = '%' ∨ isFormChar d = true := by
  obtain ⟨b, -, hd⟩ := List.mem_flatMap.1 h
  have hd : d = '%' ∨ d = upperHexDigit (b.toNat / 16) ∨ d = upperHexDigit b.toNat := by
    simpa [percentOctet] using hd
  rcases hd with hd | rfl | rfl
  · exact .inl hd
  · exact .inr (isFormChar_upperHexDigit _)
  · exact .inr (isFormChar_upperHexDigit _)

/-- An encoded text holds plus signs, percent signs and characters that stand for themselves. -/
lemma mem_formEncode {s : String} {d : Char} (h : d ∈ formEncode s) :
    d = '+' ∨ d = '%' ∨ isFormChar d = true := by
  obtain ⟨c, -, hd⟩ := List.mem_flatMap.1 h
  unfold formChar at hd
  split_ifs at hd with hblank hform
  · exact .inl (List.mem_singleton.1 hd)
  · rw [List.mem_singleton.1 hd]
    exact .inr (.inr hform)
  · exact .inr (mem_percentChar hd)

lemma notMem_formEncode {d : Char} (hd : d ≠ '+' ∧ d ≠ '%' ∧ isFormChar d = false) (s : String) :
    d ∉ formEncode s := by
  intro h
  rcases mem_formEncode h with h | h | h
  · exact hd.1 h
  · exact hd.2.1 h
  · rw [hd.2.2] at h
    cases h

lemma notMem_formPair {d : Char} (hd : d ≠ '+' ∧ d ≠ '%' ∧ isFormChar d = false) (he : d ≠ '=')
    (p : String × String) : d ∉ formPair p := by
  intro h
  rcases List.mem_append.1 h with h | h
  · exact notMem_formEncode hd _ h
  · rcases List.mem_cons.1 h with h | h
    · exact he h
    · exact notMem_formEncode hd _ h

/-! ### Reading back -/

lemma unplus_of_ne {c : Char} (h : c ≠ '+') : unplus c = c := if_neg h

lemma map_unplus_percentChar (c : Char) : (percentChar c).map unplus = percentChar c := by
  conv_rhs => rw [← List.map_id (percentChar c)]
  apply List.map_congr_left
  intro d hd
  apply unplus_of_ne
  rintro rfl
  rcases mem_percentChar hd with h | h <;> exact absurd h (by decide)

lemma percentDecode_formChar (c : Char) (r : List Char) :
    percentDecode ((formChar c).map unplus ++ r) = String.utf8EncodeChar c ++ percentDecode r := by
  unfold formChar
  split_ifs with hblank hform
  · subst hblank
    exact percentDecode_cons (by decide) r
  · have hplus : c ≠ '+' := by
      rintro rfl
      exact absurd hform (by decide)
    have hpercent : c ≠ '%' := by
      rintro rfl
      exact absurd hform (by decide)
    rw [List.map_singleton, unplus_of_ne hplus]
    exact percentDecode_cons hpercent r
  · rw [map_unplus_percentChar]
    exact percentDecode_octets _ r

/-- A text is read back as it was. -/
@[simp] theorem formDecode_formEncode (s : String) : formDecode (formEncode s) = s := by
  have hoctets : ∀ cs : List Char, percentDecode ((cs.flatMap formChar).map unplus) =
      cs.flatMap String.utf8EncodeChar := by
    intro cs
    induction cs with
    | nil => rfl
    | cons c cs ih => rw [List.flatMap_cons, List.map_append, percentDecode_formChar, ih,
        List.flatMap_cons]
  rw [formDecode, formEncode, hoctets, Text.Utf8.decodeLossy_octets, String.ofList_toList]

/-- The first equals sign stands behind the name, since an encoded name has none of its own. -/
lemma readPair_formPair (p : String × String) : readPair (formPair p) = p := by
  have hname : ∀ c ∈ formEncode p.1, decide (c ≠ '=') = true := by
    intro c hc
    apply decide_eq_true
    rintro rfl
    exact notMem_formEncode (by decide) _ hc
  unfold readPair formPair
  rw [List.takeWhile_append_of_pos hname, List.dropWhile_append_of_pos hname]
  simp

lemma readForm_formPair (p : String × String) : readForm (formPair p) = [p] := by
  have hne : formPair p ≠ [] := by simp [formPair]
  have hamp : '&' ∉ formPair p := notMem_formPair (by decide) (by decide) p
  rw [readForm, Text.splitAt_of_notMem hamp, List.filter_cons_of_pos (by simpa using hne)]
  exact congrArg (· :: []) (readPair_formPair p)

/-- The text of pairs. -/
def formText (ps : List (String × String)) : String :=
  String.intercalate "&" (ps.map fun p => String.ofList (formPair p))

lemma formText_cons_cons (p q : String × String) (ps : List (String × String)) :
    (formText (p :: q :: ps)).toList = formPair p ++ '&' :: (formText (q :: ps)).toList := by
  simp [formText, String.toList_intercalate]

/-- Pairs are read back as they were. -/
theorem readForm_formText (ps : List (String × String)) :
    readForm (formText ps).toList = ps := by
  induction ps with
  | nil => rfl
  | cons p ps ih =>
    cases ps with
    | nil => simpa [formText] using readForm_formPair p
    | cons q ps => rw [formText_cons_cons, readForm_append, readForm_formPair, ih,
        List.singleton_append]

lemma notMem_formText {d : Char} (hd : d ≠ '+' ∧ d ≠ '%' ∧ isFormChar d = false) (he : d ≠ '=')
    (ha : d ≠ '&') (ps : List (String × String)) : d ∉ (formText ps).toList := by
  induction ps with
  | nil => simp [formText]
  | cons p ps ih =>
    cases ps with
    | nil => simpa [formText] using notMem_formPair hd he p
    | cons q ps =>
      rw [formText_cons_cons, List.mem_append, List.mem_cons]
      rintro (h | h | h)
      · exact notMem_formPair hd he p h
      · exact ha h
      · exact ih h

/-! ### Queries -/

/-- The query of an address; a missing one counts as empty. -/
def queryChars (u : Url) : List Char := (u.query.getD "").toList

/-- Pairs change nothing but the query of an address, and are read back behind what it held. -/
theorem readForm_addPairs (ps : List (String × String)) (u : Url) :
    readForm (u.addPairs ps).queryChars = readForm u.queryChars ++ ps := by
  unfold queryChars addPairs
  dsimp only
  rw [Option.getD_some, ← formText]
  split_ifs with h
  · rw [h, readForm_formText]
    rfl
  · rw [String.toList_append, String.toList_append, List.append_assoc]
    exact (readForm_append _ _).trans (congrArg _ (readForm_formText ps))

end LiveTelemetry.Url
