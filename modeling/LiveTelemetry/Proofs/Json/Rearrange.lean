import LiveTelemetry.Proofs.Json.Print
import Mathlib.Data.List.Forall2
import Mathlib.Data.List.Perm.Basic

/-!
JSON values that differ in the order of their fields only. Main statements: every value is one of
its own rearrangements, and so is the value with its outermost fields written back to front; a
printed field is read as its key, in front of its value.
-/
namespace LiveTelemetry.Json

mutual

/-- The same value, with the fields of objects in any order. -/
inductive Rearranges : Json → Json → Prop
  | null : Rearranges null null
  | flag (b : Bool) : Rearranges (flag b) (flag b)
  | number (n : Number) : Rearranges (number n) (number n)
  | text (s : String) : Rearranges (text s) (text s)
  | list {vs ws : List Json} (h : List.Forall₂ Rearranges vs ws) : Rearranges (list vs) (list ws)
  | object {fs gs hs : List (String × Json)} (hp : fs.Perm gs)
      (h : List.Forall₂ RearrangesField gs hs) : Rearranges (object fs) (object hs)

/-- A field of the same name, with the same value up to order. -/
inductive RearrangesField : String × Json → String × Json → Prop
  | mk (k : String) {v w : Json} (h : Rearranges v w) : RearrangesField (k, v) (k, w)

end

mutual

lemma Rearranges.refl : (v : Json) → Rearranges v v
  | .null => .null
  | .flag b => .flag b
  | .number n => .number n
  | .text s => .text s
  | .list vs => .list (refl_items vs)
  | .object fs => .object (.refl fs) (refl_fields fs)

lemma Rearranges.refl_items : (vs : List Json) → List.Forall₂ Rearranges vs vs
  | [] => .nil
  | v :: vs => .cons (.refl v) (refl_items vs)

lemma Rearranges.refl_fields : (fs : List (String × Json)) → List.Forall₂ RearrangesField fs fs
  | [] => .nil
  | (k, v) :: fs => .cons (.mk k (.refl v)) (refl_fields fs)

end

/-- An object with its fields back to front. -/
def backwards : Json → Json
  | object fs => object fs.reverse
  | v => v

lemma rearranges_backwards (v : Json) : Rearranges v v.backwards := by
  cases v with
  | object fs => exact .object fs.reverse_perm.symm (Rearranges.refl_fields _)
  | _ => exact .refl _

/-! ### The text of fields -/

/-- The text of fields and of the closing brace; `first` says whether no field precedes them. -/
def textOfFields (first : Bool) : List (String × Json) → List Char
  | [] => ['\x7d']
  | (k, v) :: fs =>
    (if first then [] else [',']) ++ (stringText k ++ ':' :: (v.chars ++ fieldsText fs))

variable {first : Bool} {fs : List (String × Json)} {k : String} {v : Json} {r : List Char}

lemma textOfFields_false (fs : List (String × Json)) : textOfFields false fs = fieldsText fs := by
  cases fs <;> simp [textOfFields, fieldsText]

lemma chars_object (fs : List (String × Json)) :
    (object fs).chars = '\x7b' :: textOfFields true fs := by
  cases fs <;> simp [chars, textOfFields]

lemma ends_textOfFields : Ends (textOfFields false fs ++ r) := by
  cases fs with
  | nil => exact ends_cons (.inr (.inr (.inr rfl)))
  | cons f fs => exact ends_cons (.inr (.inl rfl))

lemma length_textOfFields_cons : (stringText k).length + v.chars.length +
    (textOfFields false fs).length < (textOfFields first ((k, v) :: fs)).length := by
  rw [textOfFields_false]
  cases first <;> simp [textOfFields] <;> omega

namespace Cursor

variable {c : Cursor} {fuel : Nat}

lemma nextKey_nil (hc : c.rest = textOfFields first [] ++ r) :
    Yields (c.nextKey first) false ('\x7d' :: r) :=
  nextKey_of_end blanks_nil hc

/-- A printed field is read up to its value. -/
theorem reads_field (hf : (stringText k).length ≤ fuel)
    (hc : c.rest = textOfFields first ((k, v) :: fs) ++ r) :
    ∃ c₁ c₂ c₃, c.nextKey first = .ok (true, c₁) ∧ readString fuel c₁.next = .ok (k, c₂) ∧
      c₂.colon = .ok c₃ ∧ c₃.rest = v.chars ++ (textOfFields false fs ++ r) := by
  obtain ⟨q, hq⟩ := (quoted_stringText k).exists_cons
  have hlead : ∃ a, Lead first a ∧
      c.rest = a ++ '\x22' :: (q ++ ':' :: (v.chars ++ (textOfFields false fs ++ r))) := by
    rw [hc, textOfFields_false]
    cases first with
    | true => exact ⟨[], blanks_nil, by simp [textOfFields, hq]⟩
    | false => exact ⟨[','], ⟨[], [], blanks_nil, blanks_nil, rfl⟩, by simp [textOfFields, hq]⟩
  obtain ⟨a, ha, hc⟩ := hlead
  obtain ⟨c₁, hkey, hc₁⟩ := nextKey_of_more ha hc
  have hlen : q.length ≤ fuel := by
    rw [hq, List.length_cons] at hf
    exact Nat.le_of_succ_le hf
  obtain ⟨c₂, hstring, hc₂⟩ := readString_complete (c := c₁.next) (hq ▸ quoted_stringText k) hlen
    (by rw [rest_next, hc₁, List.tail_cons])
  obtain ⟨c₃, hcolon, hc₃⟩ := colon_iff.2 ⟨[], blanks_nil, hc₂⟩
  exact ⟨c₁, c₂, c₃, hkey, hstring, hcolon, hc₃⟩

end Cursor
end LiveTelemetry.Json
