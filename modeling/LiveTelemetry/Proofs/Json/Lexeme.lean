import LiveTelemetry.Proofs.Json.Grammar

/-!
Readers of lexemes against the grammar. Main statements: what a number or a string is read from has
the form that the grammar gives it, and whatever has this form is read as its value.
-/
namespace LiveTelemetry.Json

/-- A reader reads a value and leaves the given text. -/
def Yields {ε α : Type} (e : Except ε (α × Cursor)) (a : α) (r : List Char) : Prop :=
  ∃ c : Cursor, e = .ok (a, c) ∧ c.rest = r

section

variable {ε α β : Type} {a b : α} {r : List Char} {c : Cursor}

@[simp] lemma yields_ok : Yields (.ok (a, c) : Except ε (α × Cursor)) b r ↔ a = b ∧ c.rest = r := by
  constructor
  · rintro ⟨_, h, rfl⟩
    cases h
    exact ⟨rfl, rfl⟩
  · rintro ⟨rfl, rfl⟩
    exact ⟨c, rfl, rfl⟩

@[simp] lemma not_yields_error {f : ε} : ¬ Yields (.error f) a r := by
  rintro ⟨_, h, -⟩
  cases h

@[simp] lemma not_yields_stop {cause : Cause} : ¬ Yields (c.stop cause) a r := not_yields_error

@[simp] lemma not_yields_stopAhead {cause : Cause} : ¬ Yields (c.stopAhead cause) a r :=
  not_yields_error

lemma yields_map {e : Except ε (β × Cursor)} {f : β → α} :
    Yields (e.map fun (x, c) => (f x, c)) a r ↔ ∃ x, Yields e x r ∧ f x = a := by
  cases e with
  | error f => simp [Except.map]
  | ok p =>
    obtain ⟨x, c⟩ := p
    simp [Except.map, and_comm]

end

namespace Cursor

variable {c : Cursor} {r : List Char}

@[simp] lemma rest_next (c : Cursor) : c.next.rest = c.rest.tail := by
  unfold next
  cases h : c.rest <;> simp [h]

lemma rest_eq_cons {x : Char} {t : List Char} (h : c.rest = x :: t) :
    c.rest = x :: c.next.rest := by
  rw [rest_next, h, List.tail_cons]

lemma rest_of_peek {x : Char} (h : c.peek = some x) : c.rest = x :: c.next.rest := by
  unfold peek at h
  obtain ⟨t, ht⟩ := List.head?_eq_some_iff.1 h
  exact rest_eq_cons ht

lemma rest_skipSpace (c : Cursor) : c.skipSpace.rest = c.rest.dropWhile isSpace := by
  have h : ∀ (cs : List Char) (p : Place), (skipSpaceFrom cs p).rest = cs.dropWhile isSpace := by
    intro cs
    induction cs with
    | nil => exact fun _ => rfl
    | cons x r ih =>
      intro p
      unfold skipSpaceFrom
      by_cases hx : isSpace x = true <;> simp [hx, ih]
  exact h c.rest c.place

lemma word_iff {ws : List Char} :
    (∃ c', c.word ws = .ok c' ∧ c'.rest = r) ↔ c.rest = ws ++ r := by
  induction ws generalizing c with
  | nil => simp [word]
  | cons w ws ih =>
    unfold word
    cases hc : c.rest with
    | nil => simp [stop]
    | cons x t =>
      by_cases hx : x = w
      · simp [hx, ih, hc]
      · simp [hx, stopAhead]

@[simp] lemma digits_fst (c : Cursor) : c.digits.1 = c.rest.takeWhile Char.isDigit := by
  have h : ∀ (cs : List Char) (p : Place) (acc : List Char),
      (digitRun cs p acc).1 = acc.reverse ++ cs.takeWhile Char.isDigit := by
    intro cs
    induction cs with
    | nil => simp [digitRun]
    | cons x r ih =>
      intro p acc
      unfold digitRun
      by_cases hx : x.isDigit = true <;> simp [hx, ih]
  exact h c.rest c.place []

@[simp] lemma rest_digits (c : Cursor) : c.digits.2.rest = c.rest.dropWhile Char.isDigit := by
  have h : ∀ (cs : List Char) (p : Place) (acc : List Char),
      (digitRun cs p acc).2.rest = cs.dropWhile Char.isDigit := by
    intro cs
    induction cs with
    | nil => simp [digitRun]
    | cons x r ih =>
      intro p acc
      unfold digitRun
      by_cases hx : x.isDigit = true <;> simp [hx, ih]
  exact h c.rest c.place []

end Cursor

lemma Blanks.append {a b : List Char} (ha : Blanks a) (hb : Blanks b) : Blanks (a ++ b) :=
  fun c hc => (List.mem_append.1 hc).elim (ha c) (hb c)

lemma blanks_takeWhile (cs : List Char) : Blanks (cs.takeWhile Cursor.isSpace) := fun c hc =>
  List.all_eq_true.1 List.all_takeWhile c hc

/-! ### Numbers -/

/-- No character that could continue a number stands at the front. -/
def Ends (r : List Char) : Prop :=
  ∀ x ∈ r.head?, x.isDigit = false ∧ x ≠ '.' ∧ isExponentLetter (some x) = false

lemma digits_takeWhile {cs : List Char} (h : cs.takeWhile Char.isDigit ≠ []) :
    Digits (cs.takeWhile Char.isDigit) :=
  ⟨h, fun d hd => List.all_eq_true.1 List.all_takeWhile d hd⟩

/-- A run of digits ends where something else stands. -/
lemma span_digits {ds r : List Char} (hd : ∀ d ∈ ds, d.isDigit = true)
    (hr : ∀ x ∈ r.head?, x.isDigit = false) :
    (ds ++ r).takeWhile Char.isDigit = ds ∧ (ds ++ r).dropWhile Char.isDigit = r := by
  have h : r.takeWhile Char.isDigit = [] ∧ r.dropWhile Char.isDigit = r := by
    cases r with
    | nil => exact ⟨rfl, rfl⟩
    | cons x r => simp [hr x rfl]
  rw [List.takeWhile_append_of_pos hd, List.dropWhile_append_of_pos hd, h.1, h.2]
  exact ⟨List.append_nil ds, rfl⟩

section

variable {negative : Bool} {significand : Nat} {shift : Int} {c : Cursor} {n : Number}
  {r : List Char}

open Magnitude

@[simp] lemma yields_realNumber :
    Yields (realNumber negative significand shift c) n r ↔
      real? negative significand shift = some n ∧ c.rest = r := by
  unfold realNumber real?
  cases scale 4 (Binary64.ofNat significand) shift <;> simp

lemma le_foldl_digits (ds : List Char) (n : Nat) :
    n ≤ ds.foldl (fun n d => n * 10 + digitValue d) n := by
  induction ds generalizing n with
  | nil => exact Nat.le_refl n
  | cons d ds ih => exact Nat.le_trans (by omega) (ih (n * 10 + digitValue d))

/-- The value of an exponent is that of its digits, unless that is too large. -/
lemma exponentValue_spec (cs : List Char) (p : Place) (n : Nat) (hn : n < 0x80000000) :
    let m := (cs.takeWhile Char.isDigit).foldl (fun n d => n * 10 + digitValue d) n
    (exponentValue n cs p).1 = (if 0x80000000 ≤ m then none else some m) ∧
      (exponentValue n cs p).2.rest.dropWhile Char.isDigit = cs.dropWhile Char.isDigit ∧
      (m < 0x80000000 → (exponentValue n cs p).2.rest = cs.dropWhile Char.isDigit) := by
  induction cs generalizing p n with
  | nil => simp [exponentValue, hn, Nat.not_le.2 hn]
  | cons x cs ih =>
    unfold exponentValue
    by_cases hx : x.isDigit = true
    · simp only [hx, if_true, List.takeWhile_cons, List.dropWhile_cons, List.foldl_cons]
      split_ifs with hl hm hm
      · have hge := le_foldl_digits (cs.takeWhile Char.isDigit) (n * 10 + digitValue x)
        exact ⟨rfl, rfl, fun hlt => absurd hlt (by omega)⟩
      · have hge := le_foldl_digits (cs.takeWhile Char.isDigit) (n * 10 + digitValue x)
        omega
      · have h := ih (p.after x) (n * 10 + digitValue x) (by omega)
        simpa only [hm, if_true] using h
      · have h := ih (p.after x) (n * 10 + digitValue x) (by omega)
        simpa only [hm, if_false] using h
    · simp [hx, hn]

/-- An exponent behind its letter: its sign, and what is left. -/
lemma exists_sign (cs : List Char) : ∃ (sign : Option Char) (t : List Char),
    (∀ s ∈ sign, s = '+' ∨ s = '-') ∧ cs = sign.toList ++ t ∧
      (sign = none → ∀ x ∈ t.head?, x ≠ '+' ∧ x ≠ '-') := by
  cases cs with
  | nil => exact ⟨none, [], by simp, rfl, by simp⟩
  | cons x t =>
    by_cases hx : x = '+' ∨ x = '-'
    · exact ⟨some x, t, by simpa using hx, rfl, by simp⟩
    · exact ⟨none, x :: t, by simp, rfl, by simpa [not_or] using hx⟩

lemma yields_exponentPart {sign : Option Char} {t : List Char} (letter : Char)
    (hs : ∀ s ∈ sign, s = '+' ∨ s = '-') (hc : c.rest = sign.toList ++ t)
    (ht : sign = none → ∀ x ∈ t.head?, x ≠ '+' ∧ x ≠ '-') :
    Yields (exponentPart negative significand shift c) n r ↔
      t.takeWhile Char.isDigit ≠ [] ∧ t.dropWhile Char.isDigit = r ∧
      withExponent? negative significand shift
        (some ⟨letter, sign, t.takeWhile Char.isDigit⟩) = some n := by
  have hsign : (c.peek == some '-') = (sign == some '-') ∧
      (if c.peek == some '+' || c.peek == some '-' then c.next else c).rest = t := by
    unfold Cursor.peek
    rw [hc]
    cases sign with
    | some s =>
      have hs := hs s rfl
      simp [hs, hc]
    | none =>
      have ht := ht rfl
      cases t with
      | nil => simp [hc]
      | cons x t =>
        have hx := ht x rfl
        simp [hx, hc]
  unfold exponentPart
  dsimp only
  obtain ⟨hminus, hrest⟩ := hsign
  generalize (if c.peek == some '+' || c.peek == some '-' then c.next else c) = c₁ at hrest ⊢
  rw [hminus]
  subst hrest
  cases hcs : c₁.rest with
  | nil => simp
  | cons x t =>
    dsimp only
    by_cases hx : x.isDigit = true
    · have hspec := exponentValue_spec (x :: t) c₁.place 0 (by omega)
      dsimp only at hspec
      rw [← digitsValue] at hspec
      have hne : (x :: t).takeWhile Char.isDigit ≠ [] := by simp [hx]
      generalize (x :: t).takeWhile Char.isDigit = ds at hspec hne ⊢
      generalize exponentValue 0 (x :: t) c₁.place = e at hspec ⊢
      obtain ⟨v, c₂⟩ := e
      obtain ⟨hv, hlong, hshort⟩ := hspec
      dsimp only at hv hlong hshort
      by_cases hm : 0x80000000 ≤ digitsValue ds
      · rw [if_pos hm] at hv
        subst hv
        have hsign : Exponent.isNegative ⟨letter, sign, ds⟩ = (sign == some '-') := rfl
        simp only [withExponent?, hm, if_true, hsign]
        split_ifs <;> simp_all [and_comm]
      · rw [if_neg hm] at hv
        subst hv
        simp [hx, hne, withExponent?, hm, Exponent.isNegative, hshort (by omega), and_comm]
    · simp [hx]

lemma isExponentLetter_iff {o : Option Char} :
    isExponentLetter o = true ↔ ∃ letter, o = some letter ∧ (letter = 'e' ∨ letter = 'E') := by
  cases o <;> simp [isExponentLetter]

lemma Ends.not_digit (hr : Ends r) : ∀ x ∈ r.head?, x.isDigit = false := fun x hx => (hr x hx).1

lemma Ends.peek_eq_false (hr : Ends r) (hc : c.rest = r) :
    (c.peek == some '.') = false ∧ isExponentLetter c.peek = false := by
  unfold Cursor.peek
  subst hc
  cases hx : c.rest.head? with
  | none => exact ⟨rfl, rfl⟩
  | some x =>
    obtain ⟨-, hdot, hletter⟩ := hr x hx
    exact ⟨by simpa using hdot, hletter⟩

lemma exponentPart_sound {letter : Char} (hl : letter = 'e' ∨ letter = 'E')
    (h : Yields (exponentPart negative significand shift c) n r) :
    ∃ x : Exponent, x.WellFormed ∧ letter :: c.rest = x.chars ++ r ∧
      withExponent? negative significand shift (some x) = some n := by
  obtain ⟨sign, t, hs, hc, ht⟩ := exists_sign c.rest
  obtain ⟨hd, hr, hn⟩ := (yields_exponentPart letter hs hc ht).1 h
  refine ⟨⟨letter, sign, t.takeWhile Char.isDigit⟩, ⟨hl, hs, digits_takeWhile hd⟩, ?_, hn⟩
  rw [hc, ← hr, Exponent.chars, List.cons_append, List.append_assoc, List.takeWhile_append_dropWhile]

lemma exponentPart_complete {x : Exponent} (hx : x.WellFormed) (hr : Ends r)
    (hc : x.letter :: c.rest = x.chars ++ r)
    (hn : withExponent? negative significand shift (some x) = some n) :
    Yields (exponentPart negative significand shift c) n r := by
  obtain ⟨-, hs, hne, hd⟩ := hx
  have hc : c.rest = x.sign.toList ++ (x.digits ++ r) := by
    simpa [Exponent.chars] using hc
  obtain ⟨htake, hdrop⟩ := span_digits hd hr.not_digit
  have ht : x.sign = none → ∀ y ∈ (x.digits ++ r).head?, y ≠ '+' ∧ y ≠ '-' := by
    intro _ y hy
    cases hds : x.digits with
    | nil => exact absurd hds hne
    | cons d ds =>
      have hd := hd d (by simp [hds])
      obtain rfl : d = y := by simpa [hds] using hy
      exact ⟨fun e => by simp [e] at hd, fun e => by simp [e] at hd⟩
  refine (yields_exponentPart x.letter hs hc ht).2 ⟨?_, hdrop, ?_⟩
  · rwa [htake]
  · rwa [htake]

lemma fractionPart_sound (h : Yields (fractionPart negative significand shift c) n r) :
    ∃ ds x, Digits ds ∧ (∀ y ∈ x, Exponent.WellFormed y) ∧
      c.rest = ds ++ (exponentChars x ++ r) ∧
      withExponent? negative (accumulate UInt64.size significand 0 ds).1
        (shift - (accumulate UInt64.size significand 0 ds).2) x = some n := by
  unfold fractionPart at h
  have hfst := c.digits_fst
  have hrest := c.rest_digits
  generalize c.digits = e at h hfst hrest
  obtain ⟨ds, c'⟩ := e
  dsimp only at h hfst hrest
  cases ds with
  | nil => simp at h
  | cons d ds =>
    dsimp only at h
    have hd : Digits (d :: ds) := by
      rw [hfst]
      exact digits_takeWhile (by rw [← hfst]; exact List.cons_ne_nil d ds)
    have hc : c.rest = d :: ds ++ c'.rest := by
      rw [hfst, hrest, List.takeWhile_append_dropWhile]
    split_ifs at h with hl
    · obtain ⟨letter, hp, hl⟩ := isExponentLetter_iff.1 hl
      obtain ⟨x, hx, hr, hn⟩ := exponentPart_sound hl h
      refine ⟨d :: ds, some x, hd, by simpa using hx, ?_, hn⟩
      rw [hc, exponentChars, ← hr, Cursor.rest_of_peek hp]
    · obtain ⟨hn, hr⟩ := yields_realNumber.1 h
      exact ⟨d :: ds, none, hd, by simp, by rw [hc, hr]; rfl, hn⟩

lemma head?_exponentChars {x : Option Exponent} (hx : ∀ y ∈ x, Exponent.WellFormed y)
    (hr : Ends r) : ∀ y ∈ (exponentChars x ++ r).head?, y.isDigit = false ∧ y ≠ '.' := by
  cases x with
  | none => exact fun y hy => ⟨(hr y hy).1, (hr y hy).2.1⟩
  | some x =>
    intro y hy
    obtain rfl : x.letter = y := by simpa [exponentChars, Exponent.chars] using hy
    obtain h | h := (hx x rfl).1 <;> rw [h] <;> decide

lemma fractionPart_complete {ds : List Char} {x : Option Exponent} (hd : Digits ds)
    (hx : ∀ y ∈ x, Exponent.WellFormed y) (hr : Ends r)
    (hc : c.rest = ds ++ (exponentChars x ++ r))
    (hn : withExponent? negative (accumulate UInt64.size significand 0 ds).1
      (shift - (accumulate UInt64.size significand 0 ds).2) x = some n) :
    Yields (fractionPart negative significand shift c) n r := by
  obtain ⟨hne, hd⟩ := hd
  obtain ⟨htake, hdrop⟩ := span_digits hd fun y hy => (head?_exponentChars hx hr y hy).1
  have hfst := c.digits_fst
  have hrest := c.rest_digits
  rw [hc, htake] at hfst
  rw [hc, hdrop] at hrest
  unfold fractionPart
  generalize c.digits = e at hfst hrest ⊢
  obtain ⟨ds', c'⟩ := e
  dsimp only at hfst hrest
  subst hfst
  cases ds' with
  | nil => exact absurd rfl hne
  | cons d ds =>
    dsimp only
    cases x with
    | none =>
      rw [(hr.peek_eq_false hrest).2, if_neg Bool.false_ne_true]
      exact yields_realNumber.2 ⟨hn, hrest⟩
    | some x =>
      have hp : c'.peek = some x.letter := by rw [Cursor.peek, hrest]; rfl
      rw [if_pos (isExponentLetter_iff.2 ⟨_, hp, (hx x rfl).1⟩)]
      refine exponentPart_complete (hx x rfl) hr ?_ hn
      rw [← Cursor.rest_of_peek hp, hrest, exponentChars]

lemma numberTail_sound {dropped : Nat}
    (h : Yields (numberTail negative significand dropped c) n r) :
    ∃ f x, (∀ ds ∈ f, Digits ds) ∧ (∀ y ∈ x, Exponent.WellFormed y) ∧
      c.rest = fractionChars f ++ (exponentChars x ++ r) ∧
      withTail? negative significand dropped f x = some n := by
  unfold numberTail at h
  by_cases hdot : c.peek = some '.'
  · rw [if_pos (by simpa using hdot)] at h
    obtain ⟨ds, x, hd, hx, hc, hn⟩ := fractionPart_sound h
    refine ⟨some ds, x, by simpa using hd, hx, ?_, hn⟩
    rw [Cursor.rest_of_peek hdot, hc]
    rfl
  · rw [if_neg (by simpa using hdot)] at h
    by_cases hl : isExponentLetter c.peek = true
    · rw [if_pos hl] at h
      obtain ⟨letter, hp, hl⟩ := isExponentLetter_iff.1 hl
      obtain ⟨x, hx, hc, hn⟩ := exponentPart_sound hl h
      refine ⟨none, some x, by simp, by simpa using hx, ?_, hn⟩
      rw [Cursor.rest_of_peek hp, hc]
      rfl
    · rw [if_neg hl] at h
      refine ⟨none, none, by simp, by simp, ?_⟩
      unfold withTail? integer
      split_ifs at h ⊢ <;> simp_all [fractionChars, exponentChars]

lemma numberTail_complete {dropped : Nat} {f : Option (List Char)} {x : Option Exponent}
    (hf : ∀ ds ∈ f, Digits ds) (hx : ∀ y ∈ x, Exponent.WellFormed y) (hr : Ends r)
    (hc : c.rest = fractionChars f ++ (exponentChars x ++ r))
    (hn : withTail? negative significand dropped f x = some n) :
    Yields (numberTail negative significand dropped c) n r := by
  unfold numberTail
  cases f with
  | some ds =>
    have hp : c.peek = some '.' := by rw [Cursor.peek, hc]; rfl
    rw [if_pos (by simp [hp])]
    refine fractionPart_complete (hf ds rfl) hx hr ?_ hn
    rw [Cursor.rest_next, hc]
    rfl
  | none =>
    cases x with
    | some x =>
      have hp : c.peek = some x.letter := by rw [Cursor.peek, hc]; rfl
      have hdot : c.peek ≠ some '.' := fun h =>
        (head?_exponentChars hx hr '.' (hp.symm.trans h)).2 rfl
      rw [if_neg (by simpa using hdot),
        if_pos (isExponentLetter_iff.2 ⟨_, hp, (hx x rfl).1⟩)]
      refine exponentPart_complete (hx x rfl) hr ?_ hn
      rw [← Cursor.rest_of_peek hp, hc]
      rfl
    | none =>
      have hp := hr.peek_eq_false hc
      rw [hp.1, hp.2, if_neg Bool.false_ne_true, if_neg Bool.false_ne_true]
      unfold withTail? integer at hn
      split_ifs at hn ⊢ <;> simp_all [fractionChars, exponentChars]

theorem readNumber_sound (h : Yields (readNumber negative c) n r) :
    ∃ m : Magnitude, m.WellFormed ∧ c.rest = m.chars ++ r ∧ m.value? negative = some n := by
  unfold readNumber at h
  cases hc : c.rest with
  | nil => simp [hc] at h
  | cons x t =>
    rw [hc] at h
    dsimp only at h
    split_ifs at h with h₀ hx
    · subst h₀
      have htail : Yields (numberTail negative 0 0 c.next) n r := by
        split at h
        · split_ifs at h
          · exact absurd h not_yields_stopAhead
          · exact h
        · exact h
      obtain ⟨f, e, hf, he, hrest, hn⟩ := numberTail_sound htail
      refine ⟨⟨['0'], f, e⟩, ⟨⟨List.cons_ne_nil _ _, by simp⟩, fun _ => rfl, hf, he⟩, ?_, hn⟩
      rw [Cursor.rest_next, hc] at hrest
      simp only [List.tail_cons] at hrest
      rw [hrest, Magnitude.chars, List.cons_append, List.nil_append, List.cons_append, List.append_assoc]
    · have hfst := c.digits_fst
      have hrest := c.rest_digits
      generalize c.digits = e at h hfst hrest
      obtain ⟨ds, c'⟩ := e
      dsimp only at h hfst hrest
      obtain ⟨f, e, hf, he, hr, hn⟩ := numberTail_sound h
      have hds : ds = x :: t.takeWhile Char.isDigit := by
        rw [hfst, hc, List.takeWhile_cons_of_pos hx]
      refine ⟨⟨ds, f, e⟩, ⟨?_, ?_, hf, he⟩, ?_, hn⟩
      · rw [hfst]
        exact digits_takeWhile (by rw [← hfst, hds]; exact List.cons_ne_nil _ _)
      · intro hz
        rw [hds] at hz
        exact absurd (Option.some.inj hz) h₀
      · rw [← hc, Magnitude.chars, List.append_assoc, List.append_assoc, ← hr, hfst, hrest,
          List.takeWhile_append_dropWhile]
    · exact absurd h not_yields_stopAhead

lemma head?_fractionChars {f : Option (List Char)} {x : Option Exponent}
    (hx : ∀ y ∈ x, Exponent.WellFormed y) (hr : Ends r) :
    ∀ y ∈ (fractionChars f ++ (exponentChars x ++ r)).head?, y.isDigit = false := by
  cases f with
  | none => exact fun y hy => (head?_exponentChars hx hr y hy).1
  | some ds =>
    intro y hy
    obtain rfl : '.' = y := by simpa [fractionChars] using hy
    decide

theorem readNumber_complete {m : Magnitude} (hm : m.WellFormed) (hr : Ends r)
    (hc : c.rest = m.chars ++ r) (hn : m.value? negative = some n) :
    Yields (readNumber negative c) n r := by
  obtain ⟨whole, f, e⟩ := m
  obtain ⟨⟨hne, hd⟩, hlead, hf, he⟩ := hm
  dsimp only at hne hd hlead hf he
  rw [Magnitude.chars, List.append_assoc, List.append_assoc] at hc
  dsimp only at hc
  unfold readNumber
  cases whole with
  | nil => exact absurd rfl hne
  | cons x ds =>
    rw [hc]
    dsimp only [List.cons_append]
    have hrest := head?_fractionChars (f := f) he hr
    by_cases h₀ : x = '0'
    · subst h₀
      obtain rfl : ds = [] := by simpa using hlead rfl
      have hnext : c.next.rest = fractionChars f ++ (exponentChars e ++ r) := by
        rw [Cursor.rest_next, hc]
        rfl
      have htail := numberTail_complete (c := c.next) hf he hr hnext hn
      rw [if_pos rfl]
      split
      · next d hd =>
        rw [Cursor.peek, hnext] at hd
        rw [if_neg (by simp [hrest d hd])]
        exact htail
      · exact htail
    · rw [if_neg h₀, if_pos (hd x List.mem_cons_self)]
      obtain ⟨htake, hdrop⟩ := span_digits hd hrest
      have hfst := c.digits_fst
      have hrest := c.rest_digits
      rw [hc, htake] at hfst
      rw [hc, hdrop] at hrest
      generalize c.digits = e' at hfst hrest ⊢
      obtain ⟨ds', c'⟩ := e'
      dsimp only at hfst hrest
      subst hfst
      exact numberTail_complete hf he hr hrest hn

end

/-! ### Strings -/

section

variable {c : Cursor} {r : List Char} {fuel : Nat}

lemma length_of_mapM {α β : Type} {f : α → Option β} {xs : List α} {ys : List β}
    (h : xs.mapM f = some ys) : ys.length = xs.length := by
  induction xs generalizing ys with
  | nil =>
    obtain rfl : [] = ys := by simpa using h
    rfl
  | cons x xs ih =>
    simp only [List.mapM_cons, Option.bind_eq_bind, Option.bind_eq_some_iff, Option.pure_def,
      Option.some.injEq] at h
    obtain ⟨y, -, zs, hzs, rfl⟩ := h
    simp [ih hzs]

lemma hexDigits?_eq_some_iff {cs : List Char} {n : Nat} :
    hexDigits? cs = some n ↔ ∃ h₁ h₂ h₃ h₄, cs.mapM hexValue? = some [h₁, h₂, h₃, h₄] ∧
      ((h₁ * 16 + h₂) * 16 + h₃) * 16 + h₄ = n := by
  unfold hexDigits?
  split
  · next h₁ h₂ h₃ h₄ hm =>
    rw [Option.some.injEq]
    refine ⟨fun hn => ⟨h₁, h₂, h₃, h₄, hm, hn⟩, ?_⟩
    rintro ⟨_, _, _, _, hm', rfl⟩
    cases hm.symm.trans hm'
    rfl
  · next hm =>
    refine iff_of_false (by simp) ?_
    rintro ⟨h₁, h₂, h₃, h₄, hm', -⟩
    exact hm h₁ h₂ h₃ h₄ hm'

lemma length_of_hexDigits {cs : List Char} {n : Nat} (h : hexDigits? cs = some n) :
    cs.length = 4 := by
  obtain ⟨_, _, _, _, hm, -⟩ := hexDigits?_eq_some_iff.1 h
  exact (length_of_mapM hm).symm

lemma yields_hexEscape {n : Nat} :
    Yields (hexEscape c) n r ↔ ∃ cs, hexDigits? cs = some n ∧ c.rest = cs ++ r := by
  have h : Yields (hexEscape c) n r ↔ hexDigits? (c.rest.take 4) = some n ∧ c.rest.drop 4 = r := by
    have hdrop : c.next.next.next.next.rest = c.rest.drop 4 := by
      simp only [Cursor.rest_next]
      rcases c.rest with _ | ⟨_, _ | ⟨_, _ | ⟨_, _ | _⟩⟩⟩ <;> rfl
    rw [hexDigits?_eq_some_iff]
    unfold hexEscape
    split
    · next h₁ h₂ h₃ h₄ hm =>
      rw [yields_ok, hdrop]
      refine and_congr_left fun _ => ⟨fun hn => ⟨h₁, h₂, h₃, h₄, hm, hn⟩, ?_⟩
      rintro ⟨_, _, _, _, hm', rfl⟩
      cases hm.symm.trans hm'
      rfl
    · next hm =>
      refine iff_of_false (by split_ifs <;> simp) ?_
      rintro ⟨⟨h₁, h₂, h₃, h₄, hm', -⟩, -⟩
      exact hm h₁ h₂ h₃ h₄ hm'
  rw [h]
  constructor
  · rintro ⟨hn, rfl⟩
    exact ⟨_, hn, (List.take_append_drop 4 c.rest).symm⟩
  · rintro ⟨cs, hn, hc⟩
    have hlen := length_of_hexDigits hn
    rw [hc, ← hlen, List.take_left, List.drop_left]
    exact ⟨hn, rfl⟩

lemma unicodeEscape_sound {x : Char} (h : Yields (unicodeEscape c) x r) :
    ∃ cs, Spelling ('\\' :: 'u' :: cs) x ∧ c.rest = cs ++ r := by
  unfold unicodeEscape at h
  split at h
  · exact absurd h not_yields_error
  · next n c₁ h₁ =>
    obtain ⟨cs, hn, hc⟩ := yields_hexEscape.1 ⟨c₁, h₁, rfl⟩
    split_ifs at h with hlow hunit
    · exact absurd h not_yields_stop
    · obtain ⟨rfl, rfl⟩ := yields_ok.1 h
      exact ⟨cs, .unit hn (by omega), hc⟩
    · split at h
      · exact absurd h not_yields_stop
      · next a t ha =>
        split_ifs at h with hslash
        · exact absurd h not_yields_stopAhead
        · split at h
          · exact absurd h not_yields_stop
          · next b t' hb =>
            split_ifs at h with hu
            · exact absurd h not_yields_stopAhead
            · split at h
              · exact absurd h not_yields_error
              · next m c₂ h₂ =>
                obtain ⟨ds, hm, hc'⟩ := yields_hexEscape.1 ⟨c₂, h₂, rfl⟩
                split_ifs at h with hm'
                · exact absurd h not_yields_stop
                · obtain ⟨rfl, rfl⟩ := yields_ok.1 h
                  refine ⟨cs ++ '\\' :: 'u' :: ds, .pair hn (by omega) hm (by omega), ?_⟩
                  obtain rfl : a = '\\' := not_not.1 hslash
                  obtain rfl : b = 'u' := not_not.1 hu
                  rw [hc, Cursor.rest_eq_cons ha, Cursor.rest_eq_cons hb, hc', List.append_assoc]
                  rfl

lemma unicodeEscape_complete {x : Char} {cs : List Char}
    (h : Spelling ('\\' :: 'u' :: cs) x) (hc : c.rest = cs ++ r) :
    Yields (unicodeEscape c) x r := by
  cases h with
  | short h => exact absurd h (by simp [simpleEscape?])
  | unit hn hu =>
    obtain ⟨c₁, h₁, hr⟩ := yields_hexEscape.2 ⟨cs, hn, hc⟩
    unfold unicodeEscape
    rw [h₁]
    dsimp only
    rw [if_neg (by omega), if_pos (by omega)]
    exact yields_ok.2 ⟨rfl, hr⟩
  | @pair cs ds m n hm hhigh hn hlow =>
    rw [List.append_assoc] at hc
    obtain ⟨c₁, h₁, hr₁⟩ := yields_hexEscape.2 ⟨cs, hm, hc⟩
    have hr₂ : c₁.next.rest = 'u' :: (ds ++ r) := by rw [Cursor.rest_next, hr₁]; rfl
    have hr₃ : c₁.next.next.rest = ds ++ r := by rw [Cursor.rest_next, hr₂]; rfl
    obtain ⟨c₂, h₂, hr⟩ := yields_hexEscape.2 ⟨ds, hn, hr₃⟩
    unfold unicodeEscape
    rw [h₁]
    dsimp only
    rw [if_neg (by omega), if_neg (by omega), hr₁]
    dsimp only [List.cons_append]
    rw [if_neg (by simp), hr₂]
    dsimp only
    rw [if_neg (by simp), h₂]
    dsimp only
    rw [if_neg (by omega)]
    exact yields_ok.2 ⟨rfl, hr⟩

lemma escape_sound {x : Char} (h : Yields (escape c) x r) :
    ∃ cs, Spelling ('\\' :: cs) x ∧ c.rest = cs ++ r := by
  unfold escape at h
  split at h
  · exact absurd h not_yields_stop
  · next a t ha =>
    split at h
    · next b hb =>
      obtain ⟨rfl, rfl⟩ := yields_ok.1 h
      exact ⟨[a], .short hb, Cursor.rest_eq_cons ha⟩
    · split_ifs at h with hu
      · subst hu
        obtain ⟨cs, hs, hc⟩ := unicodeEscape_sound h
        exact ⟨'u' :: cs, hs, by rw [Cursor.rest_eq_cons ha, hc]; rfl⟩
      · exact absurd h not_yields_stopAhead

/-- A character stands for itself, or its spelling starts with a backslash. -/
lemma Spelling.plain_or_escape {p : List Char} {x : Char} (h : Spelling p x) :
    (p = [x] ∧ x ≠ '\x22' ∧ x ≠ '\\' ∧ 0x20 ≤ x.toNat) ∨ ∃ cs, p = '\\' :: cs := by
  cases h with
  | plain hq hb hc => exact .inl ⟨rfl, hq, hb, hc⟩
  | short => exact .inr ⟨_, rfl⟩
  | unit => exact .inr ⟨_, rfl⟩
  | pair => exact .inr ⟨_, rfl⟩

lemma escape_complete {x : Char} {cs : List Char} (h : Spelling ('\\' :: cs) x)
    (hc : c.rest = cs ++ r) : Yields (escape c) x r := by
  have hunicode : ∀ ds, cs = 'u' :: ds → Yields (escape c) x r := by
    rintro ds rfl
    have hnext : c.next.rest = ds ++ r := by rw [Cursor.rest_next, hc]; rfl
    unfold escape
    rw [hc]
    exact unicodeEscape_complete h hnext
  cases h with
  | plain hq hb hc => exact absurd rfl hb
  | @short a d h =>
    unfold escape
    rw [hc]
    dsimp only [List.cons_append]
    rw [h]
    exact yields_ok.2 ⟨rfl, by rw [Cursor.rest_next, hc]; rfl⟩
  | unit hn hu => exact hunicode _ rfl
  | pair => exact hunicode _ rfl

lemma stringBody_sound {acc : List Char} {s : String} (h : Yields (stringBody fuel acc c) s r) :
    ∃ body cs, Spelled body cs ∧ c.rest = body ++ '\x22' :: r ∧
      s = String.ofList (acc.reverse ++ cs) := by
  induction fuel generalizing c acc with
  | zero => exact absurd h not_yields_stop
  | succ fuel ih =>
    unfold stringBody at h
    split at h
    · exact absurd h not_yields_stop
    · next x t hx =>
      split_ifs at h with hq hb hx'
      · obtain ⟨rfl, rfl⟩ := yields_ok.1 h
        subst hq
        exact ⟨[], [], .nil, Cursor.rest_eq_cons hx, by rw [List.append_nil]⟩
      · subst hb
        split at h
        · exact absurd h not_yields_error
        · next y c₁ h₁ =>
          obtain ⟨p, hp, hc⟩ := escape_sound ⟨c₁, h₁, rfl⟩
          obtain ⟨body, cs, hs, hr, rfl⟩ := ih h
          refine ⟨'\\' :: p ++ body, y :: cs, .cons hp hs, ?_, ?_⟩
          · rw [Cursor.rest_eq_cons hx, hc, hr]
            simp
          · simp
      · exact absurd h not_yields_stopAhead
      · obtain ⟨body, cs, hs, hr, rfl⟩ := ih h
        refine ⟨[x] ++ body, x :: cs, .cons (.plain hq hb (by omega)) hs, ?_, ?_⟩
        · rw [Cursor.rest_eq_cons hx, hr]
          simp
        · simp

lemma stringBody_complete {acc body cs : List Char} (h : Spelled body cs)
    (hf : body.length < fuel) (hc : c.rest = body ++ '\x22' :: r) :
    Yields (stringBody fuel acc c) (String.ofList (acc.reverse ++ cs)) r := by
  -- On the spellings: each of them takes a character at least, so that the fuel lasts.
  induction h generalizing fuel c acc with
  | nil =>
    cases fuel with
    | zero => exact absurd hf (Nat.not_lt_zero _)
    | succ fuel =>
      unfold stringBody
      rw [hc]
      dsimp only [List.nil_append]
      rw [if_pos rfl]
      exact yields_ok.2 ⟨by rw [List.append_nil], by rw [Cursor.rest_next, hc]; rfl⟩
  | @cons p body cs x hp hs ih =>
    cases fuel with
    | zero => exact absurd hf (Nat.not_lt_zero _)
    | succ fuel =>
      rw [List.append_assoc] at hc
      rw [List.length_append] at hf
      unfold stringBody
      obtain ⟨rfl, hq, hb, hx⟩ | ⟨ps, rfl⟩ := hp.plain_or_escape
      · rw [hc]
        dsimp only [List.cons_append, List.nil_append]
        rw [if_neg hq, if_neg hb, if_neg (by omega)]
        have hnext : c.next.rest = body ++ '\x22' :: r := by rw [Cursor.rest_next, hc]; rfl
        have h : Yields (stringBody fuel (x :: acc) c.next) _ r :=
          ih (by rw [List.length_singleton] at hf; omega) hnext
        simpa using h
      · rw [hc]
        dsimp only [List.cons_append]
        rw [if_neg (by decide), if_pos rfl]
        have hnext : c.next.rest = ps ++ (body ++ '\x22' :: r) := by rw [Cursor.rest_next, hc]; rfl
        obtain ⟨c₁, h₁, hr⟩ := escape_complete hp hnext
        rw [h₁]
        have h : Yields (stringBody fuel (x :: acc) c₁) _ r :=
          ih (by rw [List.length_cons] at hf; omega) hr
        simpa using h

theorem readString_sound {s : String} (h : Yields (readString fuel c) s r) :
    ∃ cs, Quoted ('\x22' :: cs) s ∧ c.rest = cs ++ r := by
  obtain ⟨body, cs, hs, hc, rfl⟩ := stringBody_sound h
  exact ⟨body ++ ['\x22'], ⟨body, cs, hs, rfl, rfl⟩, by rw [hc, List.append_assoc]; rfl⟩

theorem readString_complete {s : String} {cs : List Char} (h : Quoted ('\x22' :: cs) s)
    (hf : cs.length ≤ fuel) (hc : c.rest = cs ++ r) : Yields (readString fuel c) s r := by
  obtain ⟨body, chars, hs, hq, rfl⟩ := h
  obtain rfl := List.tail_eq_of_cons_eq hq
  rw [List.append_assoc] at hc
  exact @stringBody_complete c r fuel [] body chars hs (by rwa [List.length_append] at hf) hc

end

end LiveTelemetry.Json
