import LiveTelemetry.Json.Printer
import LiveTelemetry.Proofs.Json.Parse
import LiveTelemetry.Proofs.Number.Numeral

/-!
Printed texts are documents. Main statement: a printed object denotes its fields, in whatever order
they are written, if the value of each one does; texts do, and integers of 64 bits with or without
a sign.
-/
namespace LiveTelemetry.Json

/-! ### Strings -/

lemma hexValue?_hexDigit (n : Nat) : hexValue? (hexDigit n) = some (n % 16) := by
  have h : ∀ m < 16, hexValue? (Nat.digitChar m) = some m := by decide
  exact h _ (Nat.mod_lt _ (by decide))

lemma hexDigits?_of_lt {n : Nat} (h : n < 0x20) :
    hexDigits? ['0', '0', hexDigit (n / 16), hexDigit n] = some n := by
  have hzero : hexValue? '0' = some 0 := by decide
  have hn : ((0 * 16 + 0) * 16 + n / 16 % 16) * 16 + n % 16 = n := by omega
  rw [hexDigits?_eq_some_iff]
  refine ⟨0, 0, n / 16 % 16, n % 16, ?_, hn⟩
  simp [hzero, hexValue?_hexDigit]

lemma spelling_charText (c : Char) : Spelling (charText c) c := by
  unfold charText
  split_ifs with hquote hback hb ht hn hf hr hcontrol
  · subst hquote; exact .short (by decide)
  · subst hback; exact .short (by decide)
  · subst hb; exact .short (by decide)
  · subst ht; exact .short (by decide)
  · subst hn; exact .short (by decide)
  · subst hf; exact .short (by decide)
  · subst hr; exact .short (by decide)
  · have hunit := Spelling.unit (hexDigits?_of_lt hcontrol) (.inl (by omega))
    rwa [Char.ofNat_toNat] at hunit
  · exact .plain hquote hback (Nat.le_of_not_lt hcontrol)

lemma spelled_charText (cs : List Char) : Spelled (cs.flatMap charText) cs := by
  induction cs with
  | nil => exact .nil
  | cons c cs ih => exact .cons (spelling_charText c) ih

lemma quoted_stringText (s : String) : Quoted (stringText s) s :=
  ⟨s.toList.flatMap charText, s.toList, spelled_charText _, rfl, String.ofList_toList.symm⟩

lemma denotes_text {depth : Nat} (s : String) : Denotes depth (text s).chars (text s) := by
  rw [chars]
  exact .text (quoted_stringText s)

/-! ### Integers -/

/-- Digits are all taken in as long as their number stays below the limit. -/
lemma accumulate_of_lt {limit : Nat} {ds : List Char} {n count : Nat}
    (h : ds.foldl (fun n d => n * 10 + digitValue d) n < limit) :
    accumulate limit n count ds =
      (ds.foldl (fun n d => n * 10 + digitValue d) n, count + ds.length) := by
  induction ds generalizing n count with
  | nil => rfl
  | cons d ds ih =>
    have hle := le_foldl_digits ds (n * 10 + digitValue d)
    rw [List.foldl_cons] at h ⊢
    rw [accumulate, if_neg (by omega), ih h, List.length_cons, Nat.add_assoc, Nat.add_comm 1]

lemma digitsValue_toDigits (n : Nat) : digitsValue (Nat.toDigits 10 n) = n :=
  Numeral.digitsValue_toDigits n

lemma digits_toDigits (n : Nat) : Digits (Nat.toDigits 10 n) :=
  ⟨Nat.toDigits_ne_nil, fun _ h => Nat.isDigit_of_mem_toDigits (by decide) (by decide) h⟩

/-- A number that is written with digits only. -/
def Magnitude.ofNat (n : Nat) : Magnitude := ⟨Nat.toDigits 10 n, none, none⟩

namespace Magnitude

lemma chars_ofNat (n : Nat) : (ofNat n).chars = Nat.toDigits 10 n := by
  simp [chars, ofNat, fractionChars, exponentChars]

lemma wellFormed_ofNat (n : Nat) : (ofNat n).WellFormed where
  whole := digits_toDigits n
  lead := Numeral.toDigits_eq_of_head?_eq_zero
  fraction := fun _ h => by cases h
  exponent := fun _ h => by cases h

lemma value?_ofNat {n : Nat} (h : n < UInt64.size) (negative : Bool) :
    (ofNat n).value? negative = some (integer negative n) := by
  have hvalue : (Nat.toDigits 10 n).foldl (fun n d => n * 10 + digitValue d) 0 = n :=
    digitsValue_toDigits n
  have haccumulate : accumulate UInt64.size 0 0 (Nat.toDigits 10 n) =
      (n, (Nat.toDigits 10 n).length) := by
    rw [accumulate_of_lt (hvalue.symm ▸ h), hvalue, Nat.zero_add]
  simp [value?, ofNat, haccumulate, withTail?]

end Magnitude

/-- An integer of 64 bits, with or without a sign, denotes itself. -/
lemma denotes_integer {depth : Nat} {n : Int} (hlow : -0x8000000000000000 ≤ n)
    (hhigh : n < UInt64.size) :
    Denotes depth (number (.integer n)).chars (number (.integer n)) := by
  have hsize : UInt64.size = 18446744073709551616 := rfl
  rw [chars, Number.render, Int.toString_eq_repr]
  cases n with
  | ofNat n =>
    have hn : n < UInt64.size := Int.ofNat_lt.1 hhigh
    have h : Denotes depth _ _ :=
      .positive (Magnitude.wellFormed_ofNat n) (Magnitude.value?_ofNat hn false)
    simpa [Int.repr, Nat.repr_eq_ofList_toDigits, Magnitude.chars_ofNat, Magnitude.integer] using h
  | negSucc n =>
    have hn : n + 1 < UInt64.size := by omega
    have h : Denotes depth _ _ :=
      .negative (Magnitude.wellFormed_ofNat (n + 1)) (Magnitude.value?_ofNat hn true)
    have hvalue : Magnitude.integer true (n + 1) = .integer (Int.negSucc n) := by
      simp only [Magnitude.integer, Bool.not_true, Bool.false_eq_true, if_false]
      rw [if_neg (by omega), Int.negSucc_eq]
      rfl
    rw [Magnitude.chars_ofNat, hvalue] at h
    simpa [Int.repr, Nat.repr_eq_ofList_toDigits] using h

/-! ### Objects -/

variable {depth : Nat} {fs : List (String × Json)}

/-- A field behind what stands in front of it. -/
lemma Fields.cons_compact {first : Bool} {a r : List Char} {k : String} {v : Json}
    (ha : Lead first a) (hv : Denotes depth v.chars v) (hr : Fields depth false r fs) :
    Fields depth first (a ++ (stringText k ++ ':' :: (v.chars ++ r))) ((k, v) :: fs) :=
  .cons ha (quoted_stringText k) blanks_nil blanks_nil hv hr

lemma fields_fieldsText (h : ∀ f ∈ fs, Denotes depth f.2.chars f.2) :
    ∃ cs, fieldsText fs = cs ++ ['\x7d'] ∧ Fields depth false cs fs := by
  induction fs with
  | nil => exact ⟨[], by simp [fieldsText], .nil blanks_nil⟩
  | cons f fs ih =>
    obtain ⟨k, v⟩ := f
    obtain ⟨r, hr, hfields⟩ := ih fun f hf => h f (List.mem_cons_of_mem _ hf)
    have hlead : Lead false [','] := ⟨[], [], blanks_nil, blanks_nil, rfl⟩
    have hv : Denotes depth v.chars v := h _ List.mem_cons_self
    exact ⟨_, by simp [fieldsText, hr], hfields.cons_compact hlead hv⟩

/-- A printed object denotes its fields. -/
theorem denotes_object (h : ∀ f ∈ fs, Denotes depth f.2.chars f.2) :
    Denotes (depth + 1) (object fs).chars (ofFields fs) := by
  cases fs with
  | nil =>
    rw [chars]
    exact .object (.nil blanks_nil)
  | cons f fs =>
    obtain ⟨k, v⟩ := f
    obtain ⟨r, hr, hfields⟩ := fields_fieldsText fun f hf => h f (List.mem_cons_of_mem _ hf)
    have hlead : Lead true [] := blanks_nil
    have hv : Denotes depth v.chars v := h _ List.mem_cons_self
    have hall := hfields.cons_compact (k := k) hlead hv
    have hchars : (object ((k, v) :: fs)).chars =
        '\x7b' :: (([] ++ (stringText k ++ ':' :: (v.chars ++ r))) ++ ['\x7d']) := by
      simp [chars, hr]
    rw [hchars]
    exact .object hall

/-- The text of a value is read as the value that it denotes. -/
lemma parse_render_of_denotes {v w : Json} (h : Denotes 127 v.chars w) :
    parse v.render = .ok w := by
  rw [parse_eq_ok_iff, render, String.toList_ofList]
  exact ⟨[], v.chars, [], blanks_nil, h, blanks_nil, by simp⟩

end LiveTelemetry.Json
