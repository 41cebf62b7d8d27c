import LiveTelemetry.Link.Event
import Mathlib.Data.List.Basic

/-!
Keys of interfaces and of their transitions. Main statements: a key tells which device and which
interface it was made of, and which transition if it holds one, also if the name of the device holds
colons and digits itself, since what stands behind it has no colon.
-/
namespace LiveTelemetry.LinkEvent

/-- Two lists are cut alike at the last place of a separator. -/
lemma append_cons_inj_of_notMem_right {α : Type} {a b c d : List α} {x : α} (hb : x ∉ b)
    (hd : x ∉ d) : a ++ x :: b = c ++ x :: d ↔ a = c ∧ b = d := by
  constructor
  · intro h
    obtain ⟨m, rfl, hm⟩ | ⟨m, rfl, hm⟩ := List.append_eq_append_iff.1 h
    · cases m with
      | nil => simpa using hm
      | cons y m =>
        have hx : b = m ++ x :: d := (List.cons.inj hm).2
        exact absurd (by simp [hx]) hb
    · cases m with
      | nil => simpa using hm.symm
      | cons y m =>
        have hx : d = m ++ x :: b := (List.cons.inj hm).2
        exact absurd (by simp [hx]) hd
  · rintro ⟨rfl, rfl⟩
    rfl

lemma toList_numeral (n : Nat) : (toString n).toList = Nat.toDigits 10 n := by
  rw [Nat.toString_eq_ofList_toDigits, String.toList_ofList]

lemma colon_notMem_numeral (n : Nat) : ':' ∉ (toString n).toList := by
  rw [toList_numeral]
  intro h
  exact absurd (Nat.isDigit_of_mem_toDigits (by decide) (by decide) h) (by decide)

lemma numeral_inj {m n : Nat} : (toString m).toList = (toString n).toList ↔ m = n := by
  rw [toList_numeral, toList_numeral]
  refine ⟨fun h => ?_, congrArg _⟩
  rw [← Nat.ofDigitChars_ten_toDigits (n := m), h, Nat.ofDigitChars_ten_toDigits]

theorem keyOf_inj {r r' : String} {i i' : UInt32} :
    keyOf r i = keyOf r' i' ↔ r = r' ∧ i = i' := by
  have hlist : ∀ (r : String) (i : UInt32),
      (keyOf r i).toList = r.toList ++ ':' :: (toString i.toNat).toList := by
    intro r i
    simp [keyOf]
  calc keyOf r i = keyOf r' i' ↔ (keyOf r i).toList = (keyOf r' i').toList := String.toList_inj.symm
    _ ↔ r.toList = r'.toList ∧ (toString i.toNat).toList = (toString i'.toNat).toList := by
      rw [hlist, hlist]
      exact append_cons_inj_of_notMem_right (colon_notMem_numeral _) (colon_notMem_numeral _)
    _ ↔ r = r' ∧ i = i' := by
      rw [String.toList_inj, numeral_inj, UInt32.toNat_inj]

lemma interfaceKey_eq_keyOf_iff {e : LinkEvent} {r : String} {i : UInt32} :
    e.interfaceKey = keyOf r i ↔ e.router.text = r ∧ e.interfaceIndex = i := keyOf_inj

/-- Two events tell of the same transition of the same interface. -/
def Repeats (e e' : LinkEvent) : Prop :=
  e.router = e'.router ∧ e.interfaceIndex = e'.interfaceIndex ∧ e.transition = e'.transition

instance (e e' : LinkEvent) : Decidable (Repeats e e') := inferInstanceAs (Decidable (_ ∧ _))

lemma Repeats.trans {e e' e'' : LinkEvent} (h : e.Repeats e') (h' : e'.Repeats e'') :
    e.Repeats e'' :=
  ⟨h.1.trans h'.1, h.2.1.trans h'.2.1, h.2.2.trans h'.2.2⟩

lemma interfaceKey_inj {e e' : LinkEvent} : e.interfaceKey = e'.interfaceKey ↔
    e.router = e'.router ∧ e.interfaceIndex = e'.interfaceIndex := by
  rw [← DeviceId.text_inj]
  exact keyOf_inj

lemma colon_notMem_tag (t : Transition) : ':' ∉ t.tag.toList := by
  cases t <;> decide

lemma tag_inj {t t' : Transition} : t.tag.toList = t'.tag.toList ↔ t = t' := by
  cases t <;> cases t' <;> decide

/-- Events share a key exactly if one repeats the other. -/
theorem throttleKey_inj {e e' : LinkEvent} : e.throttleKey = e'.throttleKey ↔ e.Repeats e' := by
  have hlist : ∀ e : LinkEvent, e.throttleKey.toList =
      e.interfaceKey.toList ++ ':' :: e.transition.tag.toList := by
    intro e
    simp [throttleKey]
  calc e.throttleKey = e'.throttleKey ↔ e.throttleKey.toList = e'.throttleKey.toList :=
      String.toList_inj.symm
    _ ↔ e.interfaceKey.toList = e'.interfaceKey.toList ∧
        e.transition.tag.toList = e'.transition.tag.toList := by
      rw [hlist, hlist]
      exact append_cons_inj_of_notMem_right (colon_notMem_tag _) (colon_notMem_tag _)
    _ ↔ e.Repeats e' := by
      rw [String.toList_inj, interfaceKey_inj, tag_inj, Repeats, and_assoc]

/-- Two events have one key of the interface exactly if they tell of one interface of one device, and
one key of the transition exactly if they tell of the same transition of it as well, whatever stands
in the names of the devices. -/
theorem keys_eq_iff (e e' : LinkEvent) :
    (e.interfaceKey = e'.interfaceKey ↔
      e.router = e'.router ∧ e.interfaceIndex = e'.interfaceIndex) ∧
    (e.throttleKey = e'.throttleKey ↔
      e.router = e'.router ∧ e.interfaceIndex = e'.interfaceIndex ∧
        e.transition = e'.transition) := by
  constructor
  · exact interfaceKey_inj
  · exact throttleKey_inj

/-- Neither a colon nor digits in the name of a device lead astray. -/
example : keyOf "r:1" 2 ≠ keyOf "r" 12 := by decide +kernel

end LiveTelemetry.LinkEvent
