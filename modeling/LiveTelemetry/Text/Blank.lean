/-!
Blank and control characters, and trimming. Blank means the Unicode property White_Space; a text is
blank when nothing is left of it after trimming.
-/
namespace LiveTelemetry.Text

/-- Characters with the Unicode property White_Space. -/
def isBlankChar (c : Char) : Bool :=
  let n := c.toNat
  (9 ≤ n && n ≤ 13) || n == 0x20 || n == 0x85 || n == 0xA0 || n == 0x1680 ||
    (0x2000 ≤ n && n ≤ 0x200A) || n == 0x2028 || n == 0x2029 || n == 0x202F || n == 0x205F ||
    n == 0x3000

/-- Control characters of the Unicode category Cc. -/
def isControlChar (c : Char) : Bool :=
  c.toNat < 32 || (127 ≤ c.toNat && c.toNat < 160)

def trimStartChars (cs : List Char) : List Char := cs.dropWhile isBlankChar

/-- Drops blanks at both ends. -/
def trimChars (cs : List Char) : List Char :=
  (trimStartChars (trimStartChars cs).reverse).reverse

def trim (s : String) : String := String.ofList (trimChars s.toList)

def isBlank (s : String) : Bool := s.toList.all isBlankChar

theorem trimStartChars_eq_nil {cs : List Char} :
    trimStartChars cs = [] ↔ cs.all isBlankChar = true := by
  induction cs with
  | nil => simp [trimStartChars]
  | cons c cs ih =>
    by_cases h : isBlankChar c <;> simp_all [trimStartChars]

theorem trimChars_eq_nil {cs : List Char} : trimChars cs = [] ↔ cs.all isBlankChar = true := by
  constructor
  · intro h
    have h' : trimStartChars (trimStartChars cs).reverse = [] := by simpa [trimChars] using h
    rw [trimStartChars_eq_nil, List.all_reverse] at h'
    by_cases hn : trimStartChars cs = []
    · exact trimStartChars_eq_nil.1 hn
    · obtain ⟨c, r, hcr⟩ := List.exists_cons_of_ne_nil hn
      have hc : isBlankChar c = false := by
        have := List.head?_dropWhile_not isBlankChar cs
        unfold trimStartChars at hcr
        simpa [hcr] using this
      rw [hcr] at h'
      simp [hc] at h'
  · intro h
    rw [trimChars, trimStartChars_eq_nil.2 h]
    rfl

@[simp] theorem trim_eq_empty {s : String} : trim s = "" ↔ isBlank s = true := by
  rw [trim, ← String.toList_inj, String.toList_ofList, isBlank]
  exact trimChars_eq_nil

theorem isBlank_eq_false_of_mem {s : String} {c : Char} (hc : c ∈ s.toList)
    (hb : isBlankChar c = false) : isBlank s = false := by
  rw [isBlank, List.all_eq_false]
  exact ⟨c, hc, by simp [hb]⟩

theorem mem_trimStartChars {c : Char} {cs : List Char} (hc : c ∈ cs) (hb : isBlankChar c = false) :
    c ∈ trimStartChars cs := by
  induction cs with
  | nil => cases hc
  | cons a cs ih =>
    unfold trimStartChars
    rw [List.dropWhile_cons]
    split
    · next ha =>
      obtain rfl | hc := List.mem_cons.1 hc
      · exact absurd (ha.symm.trans hb) (by decide)
      · exact ih hc
    · exact hc

/-- Trimming takes nothing but blanks away. -/
theorem isBlank_trim (s : String) : isBlank (trim s) = isBlank s := by
  cases h : isBlank s with
  | true => rw [trim_eq_empty.2 h]; rfl
  | false =>
    obtain ⟨c, hc, hb⟩ := List.all_eq_false.1 h
    rw [Bool.not_eq_true] at hb
    refine isBlank_eq_false_of_mem (c := c) ?_ hb
    have hm := mem_trimStartChars (List.mem_reverse.2 (mem_trimStartChars hc hb)) hb
    rwa [trim, String.toList_ofList, trimChars, List.mem_reverse]

example : trim "\u00a0 r1\n" = "r1" := by decide +kernel
example : isBlank "\u3000\t" = true ∧ isBlank "\u200b" = false := by decide +kernel

end LiveTelemetry.Text
