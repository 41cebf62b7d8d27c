import LiveTelemetry.Text.Utf8
import Mathlib.Tactic.Common

/-!
Reading octets as UTF-8. Main statement: octets are read as a text exactly if they are the octets
of that text.
-/
namespace LiveTelemetry.Text.Utf8

/-- The octets of one character, and its number. Behind some first octets the second one has a
smaller range: shorter forms, surrogates and numbers beyond the last character are left out. -/
inductive Spells : List UInt8 → Nat → Prop
  | one {a : UInt8} (ha : a.toNat < 0x80) : Spells [a] a.toNat
  | two {a b : UInt8} (ha : 0xC2 ≤ a.toNat ∧ a.toNat ≤ 0xDF)
      (hb : 0x80 ≤ b.toNat ∧ b.toNat ≤ 0xBF) :
      Spells [a, b] ((a.toNat - 0xC0) * 64 + (b.toNat - 0x80))
  | three {a b c : UInt8} (ha : 0xE0 ≤ a.toNat ∧ a.toNat ≤ 0xEF)
      (hb : 0x80 ≤ b.toNat ∧ b.toNat ≤ 0xBF) (hlow : a.toNat = 0xE0 → 0xA0 ≤ b.toNat)
      (hhigh : a.toNat = 0xED → b.toNat ≤ 0x9F) (hc : 0x80 ≤ c.toNat ∧ c.toNat ≤ 0xBF) :
      Spells [a, b, c] (((a.toNat - 0xE0) * 64 + (b.toNat - 0x80)) * 64 + (c.toNat - 0x80))
  | four {a b c d : UInt8} (ha : 0xF0 ≤ a.toNat ∧ a.toNat ≤ 0xF4)
      (hb : 0x80 ≤ b.toNat ∧ b.toNat ≤ 0xBF) (hlow : a.toNat = 0xF0 → 0x90 ≤ b.toNat)
      (hhigh : a.toNat = 0xF4 → b.toNat ≤ 0x8F) (hc : 0x80 ≤ c.toNat ∧ c.toNat ≤ 0xBF)
      (hd : 0x80 ≤ d.toNat ∧ d.toNat ≤ 0xBF) :
      Spells [a, b, c, d] ((((a.toNat - 0xF0) * 64 + (b.toNat - 0x80)) * 64 +
        (c.toNat - 0x80)) * 64 + (d.toNat - 0x80))

lemma Spells.isValidChar {bs : List UInt8} {n : Nat} (h : Spells bs n) : n.isValidChar := by
  cases h <;> (unfold Nat.isValidChar; omega)

lemma toNat_ofNat_of_valid {n : Nat} (h : n.isValidChar) : (Char.ofNat n).toNat = n := by
  rw [Char.ofNat, dif_pos h]
  rfl

lemma uint8_eq_ofNat {a : UInt8} {n : Nat} (h : n = a.toNat) : UInt8.ofNat n = a := by
  rw [h, UInt8.ofNat_toNat]

/-- The octets that spell a character are its encoded form. -/
lemma Spells.encodeChar {bs : List UInt8} {n : Nat} (h : Spells bs n) :
    String.utf8EncodeChar (Char.ofNat n) = bs := by
  have hn : (Char.ofNat n).val.toNat = n := toNat_ofNat_of_valid h.isValidChar
  unfold String.utf8EncodeChar
  simp only [hn]
  cases h with
  | one ha =>
    rw [if_pos (by omega), uint8_eq_ofNat rfl]
  | two ha hb =>
    rw [if_neg (by omega), if_pos (by omega)]
    simp only [List.cons.injEq, and_true]
    exact ⟨uint8_eq_ofNat (by omega), uint8_eq_ofNat (by omega)⟩
  | three ha hb hlow hhigh hc =>
    rw [if_neg (by omega), if_neg (by omega), if_pos (by omega)]
    simp only [List.cons.injEq, and_true]
    exact ⟨uint8_eq_ofNat (by omega), uint8_eq_ofNat (by omega), uint8_eq_ofNat (by omega)⟩
  | four ha hb hlow hhigh hc hd =>
    rw [if_neg (by omega), if_neg (by omega), if_neg (by omega)]
    simp only [List.cons.injEq, and_true]
    exact ⟨uint8_eq_ofNat (by omega), uint8_eq_ofNat (by omega), uint8_eq_ofNat (by omega),
      uint8_eq_ofNat (by omega)⟩

/-- The encoded form of every character spells it. -/
lemma spells_encodeChar (c : Char) : Spells (String.utf8EncodeChar c) c.toNat := by
  have hv : c.toNat.isValidChar := c.valid
  unfold Nat.isValidChar at hv
  unfold String.utf8EncodeChar
  have hb : ∀ n, n < 256 → (UInt8.ofNat n).toNat = n := fun n hn =>
    UInt8.toNat_ofNat_of_lt' hn
  simp only [show c.val.toNat = c.toNat from rfl]
  split_ifs with h₁ h₂ h₃
  · have h : Spells [UInt8.ofNat c.toNat] (UInt8.ofNat c.toNat).toNat :=
      .one (by rw [hb _ (by omega)]; omega)
    rwa [hb _ (by omega)] at h
  · have h := Spells.two (a := UInt8.ofNat (c.toNat / 64 % 32 + 192))
      (b := UInt8.ofNat (c.toNat % 64 + 128)) (by rw [hb _ (by omega)]; omega)
      (by rw [hb _ (by omega)]; omega)
    rw [hb _ (by omega), hb _ (by omega)] at h
    convert h using 1
    omega
  · have h := Spells.three (a := UInt8.ofNat (c.toNat / 4096 % 16 + 224))
      (b := UInt8.ofNat (c.toNat / 64 % 64 + 128)) (c := UInt8.ofNat (c.toNat % 64 + 128))
      (by rw [hb _ (by omega)]; omega) (by rw [hb _ (by omega)]; omega)
      (by rw [hb _ (by omega), hb _ (by omega)]; omega)
      (by rw [hb _ (by omega), hb _ (by omega)]; omega)
      (by rw [hb _ (by omega)]; omega)
    rw [hb _ (by omega), hb _ (by omega), hb _ (by omega)] at h
    convert h using 1
    omega
  · have h := Spells.four (a := UInt8.ofNat (c.toNat / 262144 % 8 + 240))
      (b := UInt8.ofNat (c.toNat / 4096 % 64 + 128)) (c := UInt8.ofNat (c.toNat / 64 % 64 + 128))
      (d := UInt8.ofNat (c.toNat % 64 + 128))
      (by rw [hb _ (by omega)]; omega) (by rw [hb _ (by omega)]; omega)
      (by rw [hb _ (by omega), hb _ (by omega)]; omega)
      (by rw [hb _ (by omega), hb _ (by omega)]; omega)
      (by rw [hb _ (by omega)]; omega) (by rw [hb _ (by omega)]; omega)
    rw [hb _ (by omega), hb _ (by omega), hb _ (by omega), hb _ (by omega)] at h
    convert h using 1
    omega

variable {b : UInt8} {r : List UInt8} {p : Partial}

lemma pieces_lead (h : first b.toNat = some (.inr p)) :
    pieces none (b :: r) = pieces (some p) r := by
  simp only [pieces, h]

lemma pieces_next (hb : p.low ≤ b.toNat ∧ b.toNat ≤ p.high) (ho : 1 < p.owed) :
    pieces (some p) (b :: r) =
      pieces (some ⟨p.owed - 1, p.bits * 64 + (b.toNat - 0x80), 0x80, 0xBF⟩) r := by
  simp only [pieces, if_pos hb, if_neg (Nat.not_le.2 ho)]

lemma pieces_last (hb : p.low ≤ b.toNat ∧ b.toNat ≤ p.high) (ho : p.owed ≤ 1) :
    pieces (some p) (b :: r) =
      some (Char.ofNat (p.bits * 64 + (b.toNat - 0x80))) :: pieces none r := by
  simp only [pieces, if_pos hb, if_pos ho]

/-- Behind an unfinished character there is an octet of its range, if nothing is malformed. -/
lemma exists_of_pieces_some {cs : List Char} (h : pieces (some p) r = cs.map some) :
    ∃ b r', r = b :: r' ∧ p.low ≤ b.toNat ∧ b.toNat ≤ p.high := by
  cases r with
  | nil => cases cs <;> simp [pieces] at h
  | cons b r' =>
    refine ⟨b, r', rfl, ?_⟩
    by_contra hb
    rw [pieces, if_neg hb] at h
    split at h <;> cases cs <;> simp at h

/-- What a first octet begins. -/
inductive Begins : Nat → Option (Char ⊕ Partial) → Prop
  | one {a : Nat} (ha : a < 0x80) : Begins a (some (.inl (Char.ofNat a)))
  | two {a : Nat} (ha : 0xC2 ≤ a ∧ a ≤ 0xDF) : Begins a (some (.inr ⟨1, a - 0xC0, 0x80, 0xBF⟩))
  | three {a low high : Nat} (ha : 0xE0 ≤ a ∧ a ≤ 0xEF)
      (hlow : low = if a = 0xE0 then 0xA0 else 0x80)
      (hhigh : high = if a = 0xED then 0x9F else 0xBF) :
      Begins a (some (.inr ⟨2, a - 0xE0, low, high⟩))
  | four {a low high : Nat} (ha : 0xF0 ≤ a ∧ a ≤ 0xF4)
      (hlow : low = if a = 0xF0 then 0x90 else 0x80)
      (hhigh : high = if a = 0xF4 then 0x8F else 0xBF) :
      Begins a (some (.inr ⟨3, a - 0xF0, low, high⟩))
  | bad {a : Nat} (ha : (0x80 ≤ a ∧ a < 0xC2) ∨ 0xF4 < a) : Begins a none

lemma begins_first (a : Nat) : Begins a (first a) := by
  unfold first
  split_ifs with h₁ h₂ h₃ h₄ h₅ h₆ h₇ h₈
  · exact .one h₁
  · exact .two h₂
  · subst h₃
    exact .three (by omega) rfl rfl
  · subst h₄
    exact .three (by omega) rfl rfl
  · exact .three (by omega) (by rw [if_neg h₃]) (by rw [if_neg h₄])
  · subst h₆
    exact .four (by omega) rfl rfl
  · exact .four (by omega) (by rw [if_neg h₆]) (by rw [if_neg (by omega)])
  · subst h₈
    exact .four (by omega) rfl rfl
  · exact .bad (by omega)

/-- The octets that spell a character are read as that character. -/
lemma pieces_spells {bs : List UInt8} {n : Nat} (h : Spells bs n) (r : List UInt8) :
    pieces none (bs ++ r) = some (Char.ofNat n) :: pieces none r := by
  cases h with
  | @one a ha =>
    have hf := begins_first a.toNat
    generalize hx : first a.toNat = x at hf
    cases hf <;> first | omega | skip
    simp only [List.cons_append, List.nil_append, pieces, hx]
  | @two a b ha hb =>
    have hf := begins_first a.toNat
    generalize hx : first a.toNat = x at hf
    cases hf <;> first | omega | skip
    exact (pieces_lead hx).trans (pieces_last hb Nat.le.refl)
  | @three a b c ha hb hlow hhigh hc =>
    have hf := begins_first a.toNat
    generalize hx : first a.toNat = x at hf
    cases hf with
    | @three low high _ hl hh =>
      have hrange : low ≤ b.toNat ∧ b.toNat ≤ high := by split_ifs at hl hh <;> omega
      exact (pieces_lead hx).trans ((pieces_next hrange Nat.one_lt_two).trans
        (pieces_last hc Nat.le.refl))
    | _ => omega
  | @four a b c d ha hb hlow hhigh hc hd =>
    have hf := begins_first a.toNat
    generalize hx : first a.toNat = x at hf
    cases hf with
    | @four low high _ hl hh =>
      have hrange : low ≤ b.toNat ∧ b.toNat ≤ high := by split_ifs at hl hh <;> omega
      exact (pieces_lead hx).trans ((pieces_next hrange (Nat.lt_of_sub_eq_succ rfl)).trans
        ((pieces_next hc Nat.one_lt_two).trans (pieces_last hd Nat.le.refl)))
    | _ => omega

/-- Where nothing is malformed, some octets at the start spell the first character. -/
lemma exists_spells {a : UInt8} {r : List UInt8} {cs : List Char}
    (h : pieces none (a :: r) = cs.map some) :
    ∃ bs n r' cs', a :: r = bs ++ r' ∧ Spells bs n ∧ cs = Char.ofNat n :: cs' ∧
      pieces none r' = cs'.map some := by
  have key : ∀ bs {n r'}, a :: r = bs ++ r' → Spells bs n →
      ∃ bs n r' cs', a :: r = bs ++ r' ∧ Spells bs n ∧ cs = Char.ofNat n :: cs' ∧
        pieces none r' = cs'.map some := by
    intro bs n r' hr hs
    rw [hr, pieces_spells hs] at h
    cases cs with
    | nil => simp at h
    | cons c cs' =>
      simp only [List.map_cons, List.cons.injEq, Option.some.injEq] at h
      exact ⟨bs, n, r', cs', hr, hs, by rw [h.1], h.2⟩
  have hf := begins_first a.toNat
  generalize hx : first a.toNat = x at hf
  cases hf with
  | one ha => exact key [a] rfl (.one ha)
  | two ha =>
    rw [pieces_lead hx] at h
    obtain ⟨b, r, rfl, hb⟩ := exists_of_pieces_some h
    exact key [a, b] rfl (.two ha hb)
  | three ha hl hh =>
    rw [pieces_lead hx] at h
    obtain ⟨b, r, rfl, hb⟩ := exists_of_pieces_some h
    rw [pieces_next hb (by simp)] at h
    obtain ⟨c, r, rfl, hc⟩ := exists_of_pieces_some h
    dsimp only at hb
    refine key [a, b, c] rfl (.three ha ?_ ?_ ?_ hc)
    all_goals split_ifs at hl hh <;> omega
  | four ha hl hh =>
    rw [pieces_lead hx] at h
    obtain ⟨b, r, rfl, hb⟩ := exists_of_pieces_some h
    rw [pieces_next hb (by simp)] at h
    obtain ⟨c, r, rfl, hc⟩ := exists_of_pieces_some h
    rw [pieces_next hc (by simp)] at h
    obtain ⟨d, r, rfl, hd⟩ := exists_of_pieces_some h
    dsimp only at hb
    refine key [a, b, c, d] rfl (.four ha ?_ ?_ ?_ hc hd)
    all_goals split_ifs at hl hh <;> omega
  | bad ha =>
    simp only [pieces, hx] at h
    cases cs <;> simp at h

/-- Octets without a malformed piece are the encoded forms of their characters. -/
lemma pieces_eq_map_iff {bs : List UInt8} {cs : List Char} :
    pieces none bs = cs.map some ↔ bs = cs.flatMap String.utf8EncodeChar := by
  constructor
  · intro h
    induction cs generalizing bs with
    | nil =>
      cases bs with
      | nil => rfl
      | cons a r =>
        obtain ⟨_, _, _, _, -, -, hcs, -⟩ := exists_spells h
        cases hcs
    | cons c cs ih =>
      cases bs with
      | nil => simp [pieces] at h
      | cons a r =>
        obtain ⟨bs, n, r', cs', hr, hs, hcs, hr'⟩ := exists_spells h
        cases hcs
        rw [hr, ih hr', List.flatMap_cons, hs.encodeChar]
  · rintro rfl
    induction cs with
    | nil => rfl
    | cons c cs ih =>
      rw [List.flatMap_cons, pieces_spells (spells_encodeChar c), ih, Char.ofNat_toNat,
        List.map_cons]

lemma mapM_id_eq_some {α : Type} {xs : List (Option α)} {ys : List α} :
    xs.mapM id = some ys ↔ xs = ys.map some := by
  induction xs generalizing ys with
  | nil => cases ys <;> simp
  | cons x xs ih =>
    cases x with
    | none => cases ys <;> simp
    | some x =>
      cases ys with
      | nil => simp [Option.bind_eq_some_iff]
      | cons y ys => simp [Option.bind_eq_some_iff, ih, and_comm]

/-- Octets are read as a text exactly if they are the octets of that text. -/
theorem decode?_eq_some_iff {bs : List UInt8} {s : String} :
    decode? bs = some s ↔ bs = encode s := by
  have hlist : ∀ cs : List Char, (pieces none bs).mapM id = some cs ↔
      bs = cs.flatMap String.utf8EncodeChar := fun cs => by
    rw [mapM_id_eq_some, pieces_eq_map_iff]
  rw [decode?, Option.map_eq_some_iff, encode]
  constructor
  · rintro ⟨cs, hcs, rfl⟩
    rw [String.toList_ofList]
    exact (hlist cs).1 hcs
  · exact fun h => ⟨s.toList, (hlist _).2 h, String.ofList_toList⟩

@[simp] theorem decode?_encode (s : String) : decode? (encode s) = some s :=
  decode?_eq_some_iff.2 rfl

/-- Where nothing is malformed, nothing is replaced. -/
lemma decodeLossy_octets (cs : List Char) :
    decodeLossy (cs.flatMap String.utf8EncodeChar) = String.ofList cs := by
  have hpieces : pieces none (cs.flatMap String.utf8EncodeChar) = cs.map some :=
    pieces_eq_map_iff.2 rfl
  rw [decodeLossy, hpieces, List.map_map]
  exact congrArg String.ofList (List.map_id cs)

theorem encode_injective : Function.Injective encode := fun s t h =>
  Option.some.inj ((decode?_encode s).symm.trans (h ▸ decode?_encode t))

end LiveTelemetry.Text.Utf8
