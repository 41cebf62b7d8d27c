import LiveTelemetry.Proofs.Json.Lexeme
import Mathlib.Data.List.TakeWhile

/-!
Reading JSON against its grammar. Main statement: a text is read as a value exactly if it is a
document of the grammar that denotes this value.
-/
namespace LiveTelemetry.Json

variable {c : Cursor} {r : List Char} {first : Bool} {fuel depth : Nat}

/-! ### What stands between values -/

lemma blanks_nil : Blanks [] := fun _ h => by cases h

lemma Lead.append {a b : List Char} (ha : Lead first a) (hb : Blanks b) : Lead first (a ++ b) := by
  cases first with
  | true => exact Blanks.append ha hb
  | false =>
    obtain ⟨a, b', ha, hb', rfl⟩ := ha
    exact ⟨a, b' ++ b, ha, hb'.append hb, by rw [List.append_assoc]; rfl⟩

namespace Cursor

lemma rest_eq_skipSpace (c : Cursor) :
    ∃ a, Blanks a ∧ c.rest = a ++ c.skipSpace.rest :=
  ⟨c.rest.takeWhile isSpace, blanks_takeWhile c.rest, by
    rw [rest_skipSpace, List.takeWhile_append_dropWhile]⟩

lemma skipSpace_of_blanks {a t : List Char} {x : Char} (ha : Blanks a) (hx : isSpace x = false)
    (hc : c.rest = a ++ x :: t) : c.skipSpace.rest = x :: t := by
  rw [rest_skipSpace, hc, List.dropWhile_append_of_pos ha, List.dropWhile_cons_of_neg (by simp [hx])]

lemma nextItem_end (h : Yields (c.nextItem first) false r) :
    ∃ a t, Blanks a ∧ c.rest = a ++ r ∧ r = ']' :: t := by
  obtain ⟨a, ha, hc⟩ := c.rest_eq_skipSpace
  unfold nextItem peek at h
  cases hs : c.skipSpace.rest with
  | nil => simp [hs] at h
  | cons x t =>
    simp only [hs, List.head?_cons] at h
    split_ifs at h with hx
    · obtain ⟨-, rfl⟩ := yields_ok.1 h
      subst hx
      exact ⟨a, t, ha, hc, hs⟩
    · simp at h
    · split at h
      · simp at h
      · split_ifs at h <;> simp at h
    · simp at h

lemma nextItem_more (h : Yields (c.nextItem first) true r) :
    ∃ a, Lead first a ∧ c.rest = a ++ r := by
  obtain ⟨a, ha, hc⟩ := c.rest_eq_skipSpace
  unfold nextItem peek at h
  cases hs : c.skipSpace.rest with
  | nil => simp [hs] at h
  | cons x t =>
    simp only [hs, List.head?_cons] at h
    split_ifs at h with hx hf hcomma
    · simp at h
    · obtain ⟨-, rfl⟩ := yields_ok.1 h
      exact ⟨a, by simpa [Lead, hf] using ha, hc⟩
    · subst hcomma
      obtain ⟨b, hb, hc'⟩ := c.skipSpace.next.rest_eq_skipSpace
      split at h
      · simp at h
      · split_ifs at h
        · simp at h
        · obtain ⟨-, rfl⟩ := yields_ok.1 h
          refine ⟨a ++ ',' :: b, ?_, ?_⟩
          · rw [Bool.not_eq_true] at hf
            subst hf
            exact ⟨a, b, ha, hb, rfl⟩
          · rw [hc, rest_eq_cons hs, hc', List.append_assoc]
            rfl
    · simp at h

lemma nextItem_of_end {a t : List Char} (ha : Blanks a) (hc : c.rest = a ++ ']' :: t) :
    Yields (c.nextItem first) false (']' :: t) := by
  have hs := skipSpace_of_blanks ha (by decide) hc
  unfold nextItem peek
  simp [hs]

lemma nextItem_of_more {a s : List Char} (ha : Lead first a)
    (hs : ∃ x t, s = x :: t ∧ isSpace x = false ∧ x ≠ ']') (hc : c.rest = a ++ s) :
    Yields (c.nextItem first) true s := by
  obtain ⟨x, t, rfl, hx, hx'⟩ := hs
  unfold nextItem peek
  cases first with
  | true =>
    have hs := skipSpace_of_blanks ha hx hc
    simp [hs, hx']
  | false =>
    obtain ⟨a, b, ha, hb, rfl⟩ := ha
    rw [List.append_assoc] at hc
    have hs := skipSpace_of_blanks ha (by decide) hc
    have hn : c.skipSpace.next.rest = b ++ x :: t := by rw [rest_next, hs]; rfl
    have hs' := skipSpace_of_blanks hb hx hn
    simp [hs, hs', hx']

lemma nextKey_end (h : Yields (c.nextKey first) false r) :
    ∃ a t, Blanks a ∧ c.rest = a ++ r ∧ r = '\x7d' :: t := by
  obtain ⟨a, ha, hc⟩ := c.rest_eq_skipSpace
  unfold nextKey peek at h
  cases hs : c.skipSpace.rest with
  | nil => simp [hs] at h
  | cons x t =>
    simp only [hs, List.head?_cons] at h
    split_ifs at h with hx
    · obtain ⟨-, rfl⟩ := yields_ok.1 h
      subst hx
      exact ⟨a, t, ha, hc, hs⟩
    · simp at h
    · simp at h
    · split at h
      · simp at h
      · split_ifs at h <;> simp at h
    · simp at h

lemma nextKey_more (h : Yields (c.nextKey first) true r) :
    ∃ a t, Lead first a ∧ c.rest = a ++ r ∧ r = '\x22' :: t := by
  obtain ⟨a, ha, hc⟩ := c.rest_eq_skipSpace
  unfold nextKey peek at h
  cases hs : c.skipSpace.rest with
  | nil => simp [hs] at h
  | cons x t =>
    simp only [hs, List.head?_cons] at h
    split_ifs at h with hx hf hq hcomma
    · simp at h
    · obtain ⟨-, rfl⟩ := yields_ok.1 h
      subst hq
      exact ⟨a, t, by simpa [Lead, hf] using ha, hc, hs⟩
    · simp at h
    · subst hcomma
      obtain ⟨b, hb, hc'⟩ := c.skipSpace.next.rest_eq_skipSpace
      split at h
      · simp at h
      · next y hy =>
        split_ifs at h with hq
        · obtain ⟨-, rfl⟩ := yields_ok.1 h
          subst hq
          obtain ⟨t', ht'⟩ := List.head?_eq_some_iff.1 hy
          refine ⟨a ++ ',' :: b, t', ?_, ?_, ht'⟩
          · rw [Bool.not_eq_true] at hf
            subst hf
            exact ⟨a, b, ha, hb, rfl⟩
          · rw [hc, rest_eq_cons hs, hc', List.append_assoc]
            rfl
        · simp at h
        · simp at h
    · simp at h

lemma nextKey_of_end {a t : List Char} (ha : Blanks a) (hc : c.rest = a ++ '\x7d' :: t) :
    Yields (c.nextKey first) false ('\x7d' :: t) := by
  have hs := skipSpace_of_blanks ha (by decide) hc
  unfold nextKey peek
  simp [hs]

lemma nextKey_of_more {a t : List Char} (ha : Lead first a) (hc : c.rest = a ++ '\x22' :: t) :
    Yields (c.nextKey first) true ('\x22' :: t) := by
  unfold nextKey peek
  cases first with
  | true =>
    have hs := skipSpace_of_blanks ha (by decide) hc
    simp [hs]
  | false =>
    obtain ⟨a, b, ha, hb, rfl⟩ := ha
    rw [List.append_assoc] at hc
    have hs := skipSpace_of_blanks ha (by decide) hc
    have hn : c.skipSpace.next.rest = b ++ '\x22' :: t := by rw [rest_next, hs]; rfl
    have hs' := skipSpace_of_blanks hb (by decide) hn
    simp [hs, hs']

lemma colon_iff : (∃ c', c.colon = .ok c' ∧ c'.rest = r) ↔
    ∃ b, Blanks b ∧ c.rest = b ++ ':' :: r := by
  constructor
  · rintro ⟨c', h, rfl⟩
    obtain ⟨b, hb, hc⟩ := c.rest_eq_skipSpace
    unfold colon peek at h
    cases hs : c.skipSpace.rest with
    | nil => simp [hs, stopAhead] at h
    | cons x t =>
      simp only [hs, List.head?_cons] at h
      split_ifs at h with hx
      · cases h
        subst hx
        exact ⟨b, hb, by rw [hc, rest_eq_cons hs]⟩
      · cases h
  · rintro ⟨b, hb, hc⟩
    have hs := skipSpace_of_blanks hb (by decide) hc
    refine ⟨c.skipSpace.next, ?_, by rw [rest_next, hs]; rfl⟩
    unfold colon peek
    simp [hs]

lemma key_sound {k : String} (h : Yields (c.key fuel) k r) :
    ∃ cs b, Quoted ('\x22' :: cs) k ∧ Blanks b ∧ c.next.rest = cs ++ (b ++ ':' :: r) := by
  unfold key at h
  split at h
  · simp at h
  · next k' c₁ hk =>
    split at h
    · simp at h
    · next c₂ hcolon =>
      obtain ⟨rfl, rfl⟩ := yields_ok.1 h
      obtain ⟨cs, hq, hc⟩ := readString_sound ⟨c₁, hk, rfl⟩
      obtain ⟨b, hb, hr⟩ := colon_iff.1 ⟨c₂, hcolon, rfl⟩
      exact ⟨cs, b, hq, hb, by rw [hc, hr]⟩

lemma key_complete {k : String} {cs b : List Char} (hq : Quoted ('\x22' :: cs) k) (hb : Blanks b)
    (hf : cs.length ≤ fuel) (hc : c.next.rest = cs ++ (b ++ ':' :: r)) :
    Yields (c.key fuel) k r := by
  obtain ⟨c₁, hk, hc₁⟩ := readString_complete hq hf hc
  obtain ⟨c₂, hcolon, hr⟩ := colon_iff.2 ⟨b, hb, hc₁⟩
  unfold key
  rw [hk]
  dsimp only
  rw [hcolon]
  exact yields_ok.2 ⟨rfl, hr⟩

lemma finish_iff : c.finish = .ok () ↔ Blanks c.rest := by
  unfold finish
  simp only [rest_skipSpace, List.isEmpty_iff, List.dropWhile_eq_nil_iff]
  split_ifs with h
  · exact iff_of_true rfl h
  · exact iff_of_false (fun h => by cases h) h

end Cursor

/-! ### Values -/

lemma yields_word {ws : List Char} {v v' : Json} :
    Yields ((c.word ws).map fun c => (v, c)) v' r ↔ v = v' ∧ c.rest = ws ++ r := by
  rw [← Cursor.word_iff]
  cases c.word ws with
  | error f => simp [Except.map]
  | ok c' => simp [Except.map]

/-- Everything that the readers read is in the grammar. -/
structure Sound (fuel : Nat) : Prop where
  value : ∀ {depth c v r}, Yields (readValue fuel (depth + 1) c) v r →
    ∃ a w, Blanks a ∧ Denotes depth w v ∧ c.rest = a ++ (w ++ r)
  items : ∀ {depth first acc c v r}, Yields (readItems fuel (depth + 1) first acc c) v r →
    ∃ cs vs, Items depth first cs vs ∧ v = list (acc.reverse ++ vs) ∧ c.rest = cs ++ ']' :: r
  fields : ∀ {depth first acc c v r}, Yields (readFields fuel (depth + 1) first acc c) v r →
    ∃ cs fs, Fields depth first cs fs ∧
      v = object (fs.foldl (fun t e => Table.put e.1 e.2 t) acc) ∧ c.rest = cs ++ '\x7d' :: r

lemma sound_value (h : Sound fuel) {v : Json}
    (hv : Yields (readValue (fuel + 1) (depth + 1) c) v r) :
    ∃ a w, Blanks a ∧ Denotes depth w v ∧ c.rest = a ++ (w ++ r) := by
  obtain ⟨a, ha, hc⟩ := c.rest_eq_skipSpace
  suffices ∃ w, Denotes depth w v ∧ c.skipSpace.rest = w ++ r by
    obtain ⟨w, hw, hs⟩ := this
    exact ⟨a, w, ha, hw, hc.trans (congrArg _ hs)⟩
  unfold readValue Cursor.peek at hv
  generalize c.skipSpace = c at hv ⊢
  cases hs : c.rest with
  | nil => simp [hs] at hv
  | cons x t =>
    have hcons := Cursor.rest_eq_cons hs
    simp only [hs, List.head?_cons] at hv
    rw [← hs, hcons]
    -- One case for each first character, and for the depth of containers.
    split_ifs at hv with hn ht hf hneg hd hq hl hdepth ho hdepth
    · obtain ⟨rfl, hr⟩ := yields_word.1 hv
      exact ⟨_, .null, by rw [hn, hr]; rfl⟩
    · obtain ⟨rfl, hr⟩ := yields_word.1 hv
      exact ⟨_, .yes, by rw [ht, hr]; rfl⟩
    · obtain ⟨rfl, hr⟩ := yields_word.1 hv
      exact ⟨_, .no, by rw [hf, hr]; rfl⟩
    · obtain ⟨n, hy, rfl⟩ := yields_map.1 hv
      obtain ⟨m, hm, hr, hn⟩ := readNumber_sound hy
      exact ⟨_, .negative hm hn, by rw [hneg, hr]; rfl⟩
    · obtain ⟨n, hy, rfl⟩ := yields_map.1 hv
      obtain ⟨m, hm, hr, hn⟩ := readNumber_sound hy
      exact ⟨_, .positive hm hn, by rw [← hcons, hr]⟩
    · obtain ⟨s, hy, rfl⟩ := yields_map.1 hv
      obtain ⟨cs, hcs, hr⟩ := readString_sound hy
      exact ⟨_, .text hcs, by rw [hq, hr]; rfl⟩
    · simp at hv
    · obtain ⟨d, rfl⟩ : ∃ d, depth = d + 1 := ⟨depth - 1, by omega⟩
      obtain ⟨cs, vs, hi, rfl, hr⟩ := h.items hv
      exact ⟨_, .list hi, by rw [hl, hr]; simp⟩
    · simp at hv
    · obtain ⟨d, rfl⟩ : ∃ d, depth = d + 1 := ⟨depth - 1, by omega⟩
      obtain ⟨cs, fs, hf, rfl, hr⟩ := h.fields hv
      exact ⟨_, .object hf, by rw [ho, hr]; simp⟩
    · simp at hv

lemma sound_items (h : Sound fuel) {acc : List Json} {v : Json}
    (hv : Yields (readItems (fuel + 1) (depth + 1) first acc c) v r) :
    ∃ cs vs, Items depth first cs vs ∧ v = list (acc.reverse ++ vs) ∧ c.rest = cs ++ ']' :: r := by
  unfold readItems at hv
  split at hv
  · simp at hv
  · next c₁ hnext =>
    obtain ⟨rfl, hr⟩ := yields_ok.1 hv
    obtain ⟨a, t, ha, hc, ht⟩ := Cursor.nextItem_end ⟨c₁, hnext, rfl⟩
    refine ⟨a, [], .nil ha, by rw [List.append_nil], ?_⟩
    rw [hc, Cursor.rest_eq_cons ht, hr]
  · next c₁ hnext =>
    obtain ⟨a, ha, hc⟩ := Cursor.nextItem_more ⟨c₁, hnext, rfl⟩
    split at hv
    · simp at hv
    · next w c₂ hw =>
      obtain ⟨b, ws, hb, hw, hc₁⟩ := h.value ⟨c₂, hw, rfl⟩
      obtain ⟨cs, vs, hi, rfl, hc₂⟩ := h.items hv
      refine ⟨a ++ b ++ (ws ++ cs), w :: vs, .cons (ha.append hb) hw hi, by simp, ?_⟩
      rw [hc, hc₁, hc₂]
      simp

lemma sound_fields (h : Sound fuel) {acc : List (String × Json)} {v : Json}
    (hv : Yields (readFields (fuel + 1) (depth + 1) first acc c) v r) :
    ∃ cs fs, Fields depth first cs fs ∧
      v = object (fs.foldl (fun t e => Table.put e.1 e.2 t) acc) ∧ c.rest = cs ++ '\x7d' :: r := by
  unfold readFields at hv
  split at hv
  · simp at hv
  · next c₁ hnext =>
    obtain ⟨rfl, hr⟩ := yields_ok.1 hv
    obtain ⟨a, t, ha, hc, ht⟩ := Cursor.nextKey_end ⟨c₁, hnext, rfl⟩
    refine ⟨a, [], .nil ha, rfl, ?_⟩
    rw [hc, Cursor.rest_eq_cons ht, hr]
  · next c₁ hnext =>
    obtain ⟨a, t, ha, hc, ht⟩ := Cursor.nextKey_more ⟨c₁, hnext, rfl⟩
    split at hv
    · simp at hv
    · next k c₂ hk =>
      obtain ⟨q, b, hq, hb, hc₁⟩ := Cursor.key_sound ⟨c₂, hk, rfl⟩
      split at hv
      · simp at hv
      · next w c₃ hw =>
        obtain ⟨b', ws, hb', hw, hc₂⟩ := h.value ⟨c₃, hw, rfl⟩
        obtain ⟨cs, fs, hf, rfl, hc₃⟩ := h.fields hv
        refine ⟨_, (k, w) :: fs, .cons ha hq hb hb' hw hf, rfl, ?_⟩
        rw [hc, Cursor.rest_eq_cons ht, hc₁, hc₂, hc₃]
        simp

lemma sound (fuel : Nat) : Sound fuel := by
  induction fuel with
  | zero =>
    refine ⟨?_, ?_, ?_⟩
    · intro depth c v r h
      simp [readValue] at h
    · intro depth first acc c v r h
      simp [readItems] at h
    · intro depth first acc c v r h
      simp [readFields] at h
  | succ fuel ih => exact ⟨sound_value ih, sound_items ih, sound_fields ih⟩

lemma ends_nil : Ends [] := by
  intro x hx
  cases hx

lemma ends_cons {x : Char} {t : List Char}
    (hx : Cursor.isSpace x = true ∨ x = ',' ∨ x = ']' ∨ x = '\x7d') : Ends (x :: t) := by
  intro y hy
  obtain rfl : x = y := by simpa using hy
  simp only [Cursor.isSpace, Bool.or_eq_true, beq_iff_eq] at hx
  obtain (((rfl | rfl) | rfl) | rfl) | rfl | rfl | rfl := hx <;> decide

lemma Blanks.ends {a : List Char} (ha : Blanks a) (hr : Ends r) : Ends (a ++ r) := by
  cases a with
  | nil => exact hr
  | cons x a => exact ends_cons (.inl (ha x List.mem_cons_self))

lemma Lead.ends {a : List Char} (ha : Lead false a) : Ends (a ++ r) := by
  obtain ⟨a, b, ha, -, rfl⟩ := ha
  rw [List.append_assoc]
  exact ha.ends (ends_cons (.inr (.inl rfl)))

lemma Items.ends {cs : List Char} {vs : List Json} (h : Items depth false cs vs) :
    Ends (cs ++ ']' :: r) := by
  cases h with
  | nil ha => exact ha.ends (ends_cons (.inr (.inr (.inl rfl))))
  | cons ha =>
    rw [List.append_assoc]
    exact ha.ends

lemma Fields.ends {cs : List Char} {fs : List (String × Json)} (h : Fields depth false cs fs) :
    Ends (cs ++ '\x7d' :: r) := by
  cases h with
  | nil ha => exact ha.ends (ends_cons (.inr (.inr (.inr rfl))))
  | cons ha =>
    rw [List.append_assoc]
    exact ha.ends

lemma Quoted.exists_cons {q : List Char} {s : String} (h : Quoted q s) :
    ∃ cs, q = '\x22' :: cs := by
  obtain ⟨body, cs, -, rfl, -⟩ := h
  exact ⟨_, rfl⟩

lemma Magnitude.WellFormed.exists_cons {m : Magnitude} (hm : m.WellFormed) :
    ∃ x t, m.chars = x :: t ∧ x.isDigit = true := by
  obtain ⟨hne, hd⟩ := hm.whole
  unfold Magnitude.chars
  cases hw : m.whole with
  | nil => exact absurd hw hne
  | cons x t => exact ⟨x, _, rfl, hd x (by simp [hw])⟩

lemma not_isSpace_of_isDigit {x : Char} (hx : x.isDigit = true) : Cursor.isSpace x = false := by
  by_contra h
  simp only [Cursor.isSpace, Bool.not_eq_false, Bool.or_eq_true, beq_iff_eq] at h
  obtain ((rfl | rfl) | rfl) | rfl := h <;> simp at hx

lemma Denotes.exists_cons {w : List Char} {v : Json} (h : Denotes depth w v) :
    ∃ x t, w = x :: t ∧ Cursor.isSpace x = false ∧ x ≠ ']' := by
  cases h with
  | positive hm =>
    obtain ⟨x, t, hw, hx⟩ := hm.exists_cons
    exact ⟨x, t, hw, not_isSpace_of_isDigit hx, fun h => by simp [h] at hx⟩
  | text h =>
    obtain ⟨cs, rfl⟩ := h.exists_cons
    exact ⟨_, cs, rfl, by decide, by decide⟩
  | _ => exact ⟨_, _, rfl, by decide, by decide⟩

/-- The readers read everything that is in the grammar. -/
structure Complete (fuel : Nat) : Prop where
  value : ∀ {depth a w v c r}, Denotes depth w v → w.length ≤ fuel → Blanks a → Ends r →
    c.rest = a ++ (w ++ r) → Yields (readValue fuel (depth + 1) c) v r
  items : ∀ {depth first cs vs acc c r}, Items depth first cs vs → cs.length < fuel →
    c.rest = cs ++ ']' :: r →
    Yields (readItems fuel (depth + 1) first acc c) (list (acc.reverse ++ vs)) r
  fields : ∀ {depth first cs fs acc c r}, Fields depth first cs fs → cs.length < fuel →
    c.rest = cs ++ '\x7d' :: r →
    Yields (readFields fuel (depth + 1) first acc c)
      (object (fs.foldl (fun t e => Table.put e.1 e.2 t) acc)) r

lemma complete_value (h : Complete fuel) {a w : List Char} {v : Json} (hw : Denotes depth w v)
    (hlen : w.length ≤ fuel + 1) (ha : Blanks a) (hr : Ends r) (hc : c.rest = a ++ (w ++ r)) :
    Yields (readValue (fuel + 1) (depth + 1) c) v r := by
  have hs : c.skipSpace.rest = w ++ r := by
    obtain ⟨x, t, rfl, hx, -⟩ := hw.exists_cons
    exact Cursor.skipSpace_of_blanks ha hx hc
  have hnext : ∀ {x t}, w = x :: t → c.skipSpace.next.rest = t ++ r := by
    rintro x t rfl
    rw [Cursor.rest_next, hs]
    rfl
  unfold readValue Cursor.peek
  generalize c.skipSpace = c at hs hnext ⊢
  cases hw with
  | null => simp [hs, yields_word]
  | yes => simp [hs, yields_word]
  | no => simp [hs, yields_word]
  | @positive _ m n hm hn =>
    obtain ⟨x, t, hx, hd⟩ := hm.exists_cons
    have hy := readNumber_complete hm hr hs hn
    have hxs : x ≠ 'n' ∧ x ≠ 't' ∧ x ≠ 'f' ∧ x ≠ '-' := by
      refine ⟨?_, ?_, ?_, ?_⟩ <;> (rintro rfl; simp at hd)
    simp only [hs, hx, List.cons_append, List.head?_cons, hxs, hd, if_true, if_false]
    exact yields_map.2 ⟨n, hy, rfl⟩
  | @negative _ m n hm hn =>
    have hy := readNumber_complete hm hr (hnext rfl) hn
    simp only [hs, List.cons_append, List.head?_cons]
    exact yields_map.2 ⟨n, hy, rfl⟩
  | @text _ _ s hq =>
    obtain ⟨cs, rfl⟩ := hq.exists_cons
    have hy := readString_complete hq (Nat.le_of_succ_le_succ hlen) (hnext rfl)
    simp only [hs, List.cons_append, List.head?_cons]
    exact yields_map.2 ⟨s, hy, rfl⟩
  | @list d cs vs hi =>
    have hcs : cs.length < fuel := by
      simp only [List.length_cons, List.length_append, List.length_nil] at hlen
      omega
    have hy : Yields (readItems fuel (d + 1) true [] c.next) (list vs) r :=
      h.items hi hcs ((hnext rfl).trans (List.append_assoc _ _ _))
    simp only [hs, List.cons_append, List.head?_cons]
    exact hy
  | @object d cs fs hf =>
    have hcs : cs.length < fuel := by
      simp only [List.length_cons, List.length_append, List.length_nil] at hlen
      omega
    have hy : Yields (readFields fuel (d + 1) true [] c.next) (ofFields fs) r :=
      h.fields hf hcs ((hnext rfl).trans (List.append_assoc _ _ _))
    simp only [hs, List.cons_append, List.head?_cons]
    exact hy

lemma complete_items (h : Complete fuel) {cs : List Char} {vs acc : List Json}
    (hi : Items depth first cs vs) (hlen : cs.length < fuel + 1) (hc : c.rest = cs ++ ']' :: r) :
    Yields (readItems (fuel + 1) (depth + 1) first acc c) (list (acc.reverse ++ vs)) r := by
  unfold readItems
  cases hi with
  | nil ha =>
    obtain ⟨c₁, hnext, hc₁⟩ := Cursor.nextItem_of_end ha hc
    rw [hnext]
    dsimp only
    rw [List.append_nil]
    exact yields_ok.2 ⟨rfl, by rw [Cursor.rest_next, hc₁, List.tail_cons]⟩
  | @cons _ _ a w cs v vs ha hv hr =>
    rw [List.append_assoc, List.append_assoc] at hc
    rw [List.length_append, List.length_append] at hlen
    obtain ⟨x, t, hx, hx'⟩ := hv.exists_cons
    obtain ⟨c₁, hnext, hc₁⟩ := Cursor.nextItem_of_more ha
      ⟨x, t ++ (cs ++ ']' :: r), by rw [hx]; rfl, hx'⟩ hc
    obtain ⟨c₂, hvalue, hc₂⟩ := h.value hv (by omega) blanks_nil hr.ends hc₁
    -- The value takes a character, so that the fuel left is enough for the items behind it.
    have hpos : 0 < w.length := by rw [hx]; exact Nat.succ_pos _
    have hy : Yields (readItems fuel (depth + 1) false (v :: acc) c₂)
        (list ((v :: acc).reverse ++ vs)) r := h.items hr (by omega) hc₂
    rw [hnext]
    dsimp only
    rw [hvalue]
    dsimp only
    simpa using hy

lemma complete_fields (h : Complete fuel) {cs : List Char} {fs acc : List (String × Json)}
    (hf : Fields depth first cs fs) (hlen : cs.length < fuel + 1)
    (hc : c.rest = cs ++ '\x7d' :: r) :
    Yields (readFields (fuel + 1) (depth + 1) first acc c)
      (object (fs.foldl (fun t e => Table.put e.1 e.2 t) acc)) r := by
  unfold readFields
  cases hf with
  | nil ha =>
    obtain ⟨c₁, hnext, hc₁⟩ := Cursor.nextKey_of_end ha hc
    rw [hnext]
    exact yields_ok.2 ⟨rfl, by rw [Cursor.rest_next, hc₁, List.tail_cons]⟩
  | @cons _ _ a q b b' w cs k v fs ha hk hb hb' hv hr =>
    obtain ⟨q, rfl⟩ := hk.exists_cons
    simp only [List.length_append, List.length_cons] at hlen
    have hc : c.rest = a ++ '\x22' :: (q ++ (b ++ ':' :: (b' ++ (w ++ (cs ++ '\x7d' :: r))))) := by
      simpa using hc
    obtain ⟨c₁, hnext, hc₁⟩ := Cursor.nextKey_of_more ha hc
    have hq : q.length ≤ fuel := by omega
    obtain ⟨c₂, hkey, hc₂⟩ := Cursor.key_complete hk hb hq
      (by rw [Cursor.rest_next, hc₁, List.tail_cons])
    obtain ⟨c₃, hvalue, hc₃⟩ := h.value hv (by omega) hb' hr.ends hc₂
    have hy : Yields (readFields fuel (depth + 1) false (Table.put k v acc) c₃)
        (object (fs.foldl (fun t e => Table.put e.1 e.2 t) (Table.put k v acc))) r :=
      h.fields hr (by omega) hc₃
    rw [hnext]
    dsimp only
    rw [hkey]
    dsimp only
    rw [hvalue]
    exact hy

lemma complete (fuel : Nat) : Complete fuel := by
  induction fuel with
  | zero =>
    refine ⟨fun {_ _ w _ _ _} hw hlen _ _ _ => ?_, fun _ hlen _ => ?_, fun _ hlen _ => ?_⟩
    · obtain ⟨x, t, rfl, -⟩ := hw.exists_cons
      exact absurd hlen (Nat.not_succ_le_zero _)
    · exact absurd hlen (Nat.not_lt_zero _)
    · exact absurd hlen (Nat.not_lt_zero _)
  | succ fuel ih => exact ⟨complete_value ih, complete_items ih, complete_fields ih⟩

/-- A text is read as a value exactly if it is a document that denotes this value. -/
theorem parse_eq_ok_iff {s : String} {v : Json} :
    parse s = .ok v ↔ Document 127 s.toList v := by
  constructor
  · intro h
    unfold parse at h
    split at h
    · cases h
    · next v' c hv =>
      obtain ⟨a, w, ha, hw, hc⟩ := (sound _).value ⟨c, hv, rfl⟩
      cases hf : c.finish with
      | error f => rw [hf] at h; cases h
      | ok u =>
        rw [hf] at h
        cases h
        exact ⟨a, w, c.rest, ha, hw, Cursor.finish_iff.1 hf, hc⟩
  · rintro ⟨a, w, b, ha, hw, hb, hs⟩
    have hlen : w.length ≤ fuelFor s.toList := by
      rw [hs, fuelFor, List.length_append, List.length_append]
      omega
    have hends : Ends b := by simpa using hb.ends ends_nil
    obtain ⟨c, hv, hc⟩ := (complete (fuelFor s.toList)).value hw hlen ha hends
      (c := Cursor.ofString s) hs
    have hf : c.finish = .ok () := Cursor.finish_iff.2 (hc ▸ hb)
    unfold parse depthLimit
    rw [hv]
    dsimp only
    rw [hf]
    rfl

end LiveTelemetry.Json
