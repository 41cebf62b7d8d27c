import LiveTelemetry.Proofs.Text.Utf8

/-!
The order of texts. Main statement: texts are ordered like their octets, so sorting by characters
and sorting by octets are one.
-/
namespace LiveTelemetry.Text.Utf8

lemma Spells.ne_nil {bs : List UInt8} {n : Nat} (h : Spells bs n) : bs ≠ [] := by
  cases h <;> simp

/-- The octets of the smaller of two characters come first, whatever follows them. -/
lemma Spells.append_lt_append {as bs : List UInt8} {m n : Nat} (ha : Spells as m)
    (hb : Spells bs n) (h : m < n) (r s : List UInt8) : as ++ r < bs ++ s := by
  -- Longer forms have greater first octets; in forms of one length the first difference decides.
  cases ha <;> cases hb <;>
    simp only [List.cons_append, List.nil_append, List.cons_lt_cons_iff, UInt8.lt_iff_toNat_lt,
      ← UInt8.toNat_inj] <;>
    omega

lemma encodeChar_append_lt {c d : Char} (h : c < d) (r s : List UInt8) :
    String.utf8EncodeChar c ++ r < String.utf8EncodeChar d ++ s :=
  (spells_encodeChar c).append_lt_append (spells_encodeChar d) h r s

lemma append_lt_append_iff (as bs cs : List UInt8) : as ++ bs < as ++ cs ↔ bs < cs := by
  induction as with
  | nil => rfl
  | cons a as ih => simp [ih]

lemma flatMap_encodeChar_lt_iff (cs ds : List Char) :
    cs.flatMap String.utf8EncodeChar < ds.flatMap String.utf8EncodeChar ↔ cs < ds := by
  induction cs generalizing ds with
  | nil =>
    cases ds with
    | nil => simp
    | cons d ds =>
      obtain ⟨b, bs, hb⟩ := List.exists_cons_of_ne_nil (spells_encodeChar d).ne_nil
      simp [hb]
  | cons c cs ih =>
    cases ds with
    | nil => simp
    | cons d ds =>
      rw [List.flatMap_cons, List.flatMap_cons, List.cons_lt_cons_iff]
      rcases Std.lt_trichotomy c d with h | rfl | h
      · exact iff_of_true (encodeChar_append_lt h _ _) (.inl h)
      · rw [append_lt_append_iff, ih]
        simp
      · refine iff_of_false (List.lt_asymm (encodeChar_append_lt h _ _)) ?_
        rintro (hlt | ⟨rfl, -⟩)
        · exact Std.lt_irrefl (Std.lt_trans h hlt)
        · exact Std.lt_irrefl h

theorem encode_lt_encode_iff (s t : String) : encode s < encode t ↔ s < t :=
  flatMap_encodeChar_lt_iff s.toList t.toList

/-- By 16-bit units the second of these texts would come first. -/
example : encode "a\uffff" < encode "a😀" := by decide +kernel

end LiveTelemetry.Text.Utf8
