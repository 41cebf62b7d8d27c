import LiveTelemetry.Number.Numeral
import Mathlib.Tactic.Common

/-!
Numerals as people write them. Main statements: an integer prints as the numeral it was read from
exactly if that has no plus and no zero in front; and the characters a numeral can hold.
-/
namespace LiveTelemetry.Numeral

variable {cs ds : List Char} {c : Char}

/-! ### Integers -/

lemma range_of_isDigit (hc : c.isDigit = true) : 48 ≤ c.toNat ∧ c.toNat ≤ 57 := by
  simpa [Char.isDigit, UInt32.le_iff_toNat_le] using hc

lemma digitChar_of_isDigit (hc : c.isDigit = true) : Nat.digitChar (c.toNat - '0'.toNat) = c := by
  have hrange := range_of_isDigit hc
  have hzero : '0'.toNat = 48 := rfl
  apply Char.toNat_inj.1
  rw [Nat.toNat_digitChar_of_lt_ten (by omega)]
  omega

lemma toDigits_append (hd : ∀ d ∈ ds, d.isDigit = true) {n : Nat} (hn : 0 < n) :
    Nat.toDigits 10 n ++ ds =
      Nat.toDigits 10 (ds.foldl (fun n d => n * 10 + (d.toNat - '0'.toNat)) n) := by
  induction ds generalizing n with
  | nil => rw [List.append_nil, List.foldl_nil]
  | cons d ds ih =>
    have hdigit := hd d List.mem_cons_self
    have hrange := range_of_isDigit hdigit
    have hzero : '0'.toNat = 48 := rfl
    have hlt : d.toNat - '0'.toNat < 10 := by omega
    have hone : Nat.toDigits 10 n ++ [d] = Nat.toDigits 10 (n * 10 + (d.toNat - '0'.toNat)) := by
      have happend := Nat.toDigits_append_toDigits (b := 10) (by decide) hn hlt
      rwa [Nat.toDigits_of_lt_base hlt, digitChar_of_isDigit hdigit, Nat.mul_comm] at happend
    calc Nat.toDigits 10 n ++ d :: ds = (Nat.toDigits 10 n ++ [d]) ++ ds := by simp
      _ = Nat.toDigits 10 (n * 10 + (d.toNat - '0'.toNat)) ++ ds := by rw [hone]
      _ = _ := ih (fun d h => hd d (List.mem_cons_of_mem _ h)) (by omega)

/-- Digits without a zero in front are the digits of their value. -/
lemma toDigits_digitsValue (hne : ds ≠ []) (hd : ∀ d ∈ ds, d.isDigit = true)
    (hlead : ds.head? = some '0' → ds = ['0']) : Nat.toDigits 10 (digitsValue ds) = ds := by
  cases ds with
  | nil => exact absurd rfl hne
  | cons d ds =>
    by_cases hzero : d = '0'
    · subst hzero
      rw [hlead rfl]
      decide
    · have hdigit := hd d List.mem_cons_self
      have hrange := range_of_isDigit hdigit
      have hne48 : d.toNat ≠ 48 := fun h => hzero (Char.toNat_inj.1 h)
      have h48 : '0'.toNat = 48 := rfl
      have hlt : d.toNat - '0'.toNat < 10 := by omega
      have hall := toDigits_append (fun d h => hd d (List.mem_cons_of_mem _ h))
        (n := d.toNat - '0'.toNat) (by omega)
      rw [Nat.toDigits_of_lt_base hlt, digitChar_of_isDigit hdigit, List.singleton_append] at hall
      rw [digitsValue, List.foldl_cons, Nat.zero_mul, Nat.zero_add, ← hall]

lemma digitsValue_toDigits (n : Nat) : digitsValue (Nat.toDigits 10 n) = n := by
  have h := Nat.ofDigitChars_ten_toDigits (n := n)
  simpa only [Nat.ofDigitChars, digitsValue, Nat.mul_comm 10] using h

/-- A numeral does not start with a zero, but for that of zero. -/
lemma toDigits_eq_of_head?_eq_zero {n : Nat} (h : (Nat.toDigits 10 n).head? = some '0') :
    Nat.toDigits 10 n = ['0'] := by
  induction n using Nat.strongRecOn with
  | ind n ih =>
    by_cases hn : n < 10
    · rw [Nat.toDigits_of_lt_base hn] at h ⊢
      exact congrArg (fun c => [c]) (Option.some.inj h)
    · obtain ⟨c, r, hcr⟩ := List.exists_cons_of_ne_nil (Nat.toDigits_ne_nil (n := n / 10) (b := 10))
      have hlead : (Nat.toDigits 10 (n / 10)).head? = some '0' := by
        rw [Nat.toDigits_of_base_le (by decide) (Nat.le_of_not_lt hn), hcr] at h
        rwa [hcr]
      have hzero : n / 10 = 0 := by
        rw [← digitsValue_toDigits (n / 10), ih _ (by omega) hlead]
        rfl
      omega

/-- Digits are those of a number exactly if no zero stands in front. -/
lemma toDigits_eq_iff {n : Nat} (h : digits? ds = some n) :
    Nat.toDigits 10 n = ds ↔ (ds.head? = some '0' → ds = ['0']) := by
  unfold digits? at h
  split_ifs at h with hds
  cases h
  constructor
  · intro heq hlead
    rw [← heq] at hlead ⊢
    exact toDigits_eq_of_head?_eq_zero hlead
  · exact toDigits_digitsValue hds.1 (List.all_eq_true.1 hds.2)

lemma toList_toString_natCast (n : Nat) : (toString (n : Int)).toList = Nat.toDigits 10 n := by
  rw [Int.toString_eq_repr, Int.repr_eq_if, if_pos (by omega), Int.toNat_natCast,
    Nat.repr_eq_ofList_toDigits, String.toList_ofList]

lemma toList_toString_neg {n : Nat} (h : 0 < n) :
    (toString (-n : Int)).toList = '-' :: Nat.toDigits 10 n := by
  rw [Int.toString_eq_repr, Int.repr_eq_if, if_neg (by omega), Int.neg_neg, Int.toNat_natCast,
    Nat.repr_eq_ofList_toDigits, String.toList_append, String.toList_ofList, String.toList_ofList]
  rfl

lemma exists_digits_of_integer? {n : Int} (h : integer? cs = some n) :
    ∃ m : Nat, digits? (splitSign cs).2 = some m ∧
      n = if (splitSign cs).1 then -(m : Int) else m := by
  unfold integer? at h
  obtain ⟨_, hcast, rfl⟩ := Option.map_eq_some_iff.1 h
  obtain ⟨m, hm, hcast⟩ := Option.bind_eq_some_iff.1 hcast
  exact ⟨m, hm, by rw [← Option.some.inj hcast]; rfl⟩

/-- A sign is a plus or a minus in front. -/
lemma splitSign_cases (cs : List Char) :
    (∃ r, cs = '-' :: r ∧ splitSign cs = (true, r)) ∨
      (∃ r, cs = '+' :: r ∧ splitSign cs = (false, r)) ∨
      cs.head? ≠ some '-' ∧ cs.head? ≠ some '+' ∧ splitSign cs = (false, cs) := by
  unfold splitSign
  split
  · next r => exact .inl ⟨r, rfl, rfl⟩
  · next r => exact .inr (.inl ⟨r, rfl, rfl⟩)
  · next hminus hplus =>
    refine .inr (.inr ⟨fun h => ?_, fun h => ?_, rfl⟩)
    · obtain ⟨r, rfl⟩ := List.head?_eq_some_iff.1 h
      exact hminus r rfl
    · obtain ⟨r, rfl⟩ := List.head?_eq_some_iff.1 h
      exact hplus r rfl

lemma isDigit_of_digits? {n : Nat} (h : digits? ds = some n) : ∀ d ∈ ds, d.isDigit = true := by
  unfold digits? at h
  split_ifs at h with hds
  exact List.all_eq_true.1 hds.2

lemma head?_toDigits_ne {n : Nat} (hc : c.isDigit = false) :
    (Nat.toDigits 10 n).head? ≠ some c := by
  intro h
  have hmem : c ∈ Nat.toDigits 10 n := List.mem_of_mem_head? h
  rw [Nat.isDigit_of_mem_toDigits (by decide) (by decide) hmem] at hc
  cases hc

/-- An integer prints as the numeral that it was read from exactly if that has no plus, and no zero
in front unless it is just this zero. -/
theorem toList_toString_eq_iff {n : Int} (h : integer? cs = some n) :
    (toString n).toList = cs ↔
      cs.head? ≠ some '+' ∧ ((splitSign cs).2.head? = some '0' → cs = ['0']) := by
  obtain ⟨m, hm, rfl⟩ := exists_digits_of_integer? h
  obtain ⟨r, rfl, hs⟩ | ⟨r, rfl, hs⟩ | ⟨-, hplus, hs⟩ := splitSign_cases cs
  · rw [hs] at hm ⊢
    have hdigits := toDigits_eq_iff hm
    rcases Nat.eq_zero_or_pos m with rfl | hpos
    · -- A negative zero loses its sign.
      have hhead : r.head? = some '0' := by
        by_contra hne
        have hr : Nat.toDigits 10 0 = r := hdigits.2 fun h => absurd h hne
        exact hne (hr ▸ rfl)
      refine iff_of_false (fun h => ?_) fun h => by cases h.2 hhead
      have hprint : (toString (-((0 : Nat) : Int))).toList = ['0'] := by decide
      rw [if_pos rfl, hprint] at h
      cases h
    · rw [if_pos rfl, toList_toString_neg hpos, List.cons.injEq, and_iff_right rfl, hdigits]
      constructor
      · intro h
        refine ⟨by simp, fun hzero => ?_⟩
        have hr : r = ['0'] := h hzero
        subst hr
        cases hm
        exact absurd hpos (by decide)
      · intro h hzero
        cases h.2 hzero
  · rw [hs]
    refine iff_of_false (fun h => ?_) fun h => h.1 rfl
    rw [if_neg Bool.false_ne_true, toList_toString_natCast] at h
    exact head?_toDigits_ne (n := m) (c := '+') (by decide) (by rw [h]; rfl)
  · rw [hs] at hm ⊢
    rw [if_neg Bool.false_ne_true, toList_toString_natCast, toDigits_eq_iff hm]
    exact ⟨fun h => ⟨hplus, h⟩, And.right⟩

/-! ### Characters -/

/-- A character that may stand in a numeral, or in the names of infinity and of what is none. -/
def isNumeralChar (c : Char) : Bool :=
  c.isDigit || "+-.einfaty".toList.contains c.toLower

lemma isNumeralChar_of_isDigit (hc : c.isDigit = true) : isNumeralChar c = true := by
  rw [isNumeralChar, hc, Bool.true_or]

lemma isNumeralChar_of_mem (hc : c.toLower ∈ "+-.einfaty".toList) : isNumeralChar c = true := by
  rw [isNumeralChar, List.contains_iff_mem.2 hc, Bool.or_true]

lemma isNumeralChar_of_mem_splitSign (h : ∀ d ∈ (splitSign cs).2, isNumeralChar d = true) :
    ∀ d ∈ cs, isNumeralChar d = true := by
  obtain ⟨r, rfl, hs⟩ | ⟨r, rfl, hs⟩ | ⟨-, -, hs⟩ := splitSign_cases cs
  · rw [hs] at h
    exact List.forall_mem_cons.2 ⟨by decide, h⟩
  · rw [hs] at h
    exact List.forall_mem_cons.2 ⟨by decide, h⟩
  · rwa [hs] at h

lemma isNumeralChar_of_integer? {n : Int} (h : integer? cs = some n) :
    ∀ d ∈ cs, isNumeralChar d = true := by
  obtain ⟨m, hm, -⟩ := exists_digits_of_integer? h
  exact isNumeralChar_of_mem_splitSign fun d hd =>
    isNumeralChar_of_isDigit (isDigit_of_digits? hm d hd)

lemma isNumeralChar_of_exponent? {e : Int} (h : exponent? cs = some e) :
    ∀ d ∈ cs, isNumeralChar d = true := by
  unfold exponent? at h
  split at h
  · exact fun _ hd => by cases hd
  · split_ifs at h with hletter
    refine List.forall_mem_cons.2 ⟨?_, isNumeralChar_of_integer? h⟩
    rcases hletter with rfl | rfl <;> decide

lemma isNumeralChar_of_mem_takeWhile : ∀ d ∈ cs.takeWhile Char.isDigit, isNumeralChar d = true :=
  fun _ hd => isNumeralChar_of_isDigit (List.all_eq_true.1 List.all_takeWhile _ hd)

lemma isNumeralChar_of_decimal? {negative : Bool} {x : Binary64}
    (h : decimal? negative cs = some x) : ∀ d ∈ cs, isNumeralChar d = true := by
  unfold decimal? at h
  dsimp only at h
  split_ifs at h
  obtain ⟨e, he, -⟩ := Option.map_eq_some_iff.1 h
  have htail := isNumeralChar_of_exponent? he
  rw [← List.takeWhile_append_dropWhile (p := Char.isDigit) (l := cs)]
  refine List.forall_mem_append.2 ⟨isNumeralChar_of_mem_takeWhile, ?_⟩
  -- Behind the whole part stands a fraction with its point, or the exponent at once.
  split at htail
  · next r hr =>
    rw [hr, ← List.takeWhile_append_dropWhile (p := Char.isDigit) (l := r)]
    exact List.forall_mem_cons.2 ⟨by decide,
      List.forall_mem_append.2 ⟨isNumeralChar_of_mem_takeWhile, htail⟩⟩
  · exact htail

lemma isNumeralChar_of_name {name : String} (h : String.ofList (cs.map Char.toLower) = name)
    (hname : name.toList.all "+-.einfaty".toList.contains = true) :
    ∀ d ∈ cs, isNumeralChar d = true := by
  intro d hd
  have hmem : d.toLower ∈ name.toList := by
    rw [← h, String.toList_ofList]
    exact List.mem_map_of_mem hd
  exact isNumeralChar_of_mem (List.contains_iff_mem.1 (List.all_eq_true.1 hname _ hmem))

/-- A real number is spelled with digits, signs, points, and few letters. -/
theorem isNumeralChar_of_real? {x : Binary64} (h : real? cs = some x) :
    ∀ d ∈ cs, isNumeralChar d = true := by
  apply isNumeralChar_of_mem_splitSign
  unfold real? at h
  dsimp only at h
  split at h
  · next hname => exact isNumeralChar_of_name hname (by decide)
  · next hname => exact isNumeralChar_of_name hname (by decide)
  · next hname => exact isNumeralChar_of_name hname (by decide)
  · exact isNumeralChar_of_decimal? h

end LiveTelemetry.Numeral
