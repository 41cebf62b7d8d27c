import LiveTelemetry.Control.Controller
import LiveTelemetry.Proofs.Number.Numeral
import LiveTelemetry.Proofs.Settings.Layering

/-!
Texts from variables. Main statement: a token, a vendor or a level that a variable gives is kept as
it stands exactly if it is not taken for a flag or a number that is written differently; requests
carry the token as it was kept. Two results tell what this comes to: which integers are kept, and
that a text with a character that no numeral holds always is, unless it is a flag.
-/
namespace LiveTelemetry

namespace Setting

/-- A text that is taken for a flag. -/
def IsFlag (s : String) : Prop := Text.lower s = "true" ∨ Text.lower s = "false"

/-- A text stands as settings write what it is taken for: a flag in small letters, an integer of 64
bits without sign or zero in front, any other number by its shortest digits. -/
structure Verbatim (s : String) : Prop where
  flag : IsFlag s → s = Text.lower s
  integer : ¬ IsFlag s → ∀ n ∈ integerInRange? s.toList, s = toString n
  real : ¬ IsFlag s → integerInRange? s.toList = none → ∀ x ∈ Numeral.real? s.toList,
    s = Layout.running.render x

/-- The text that a variable comes to where a text is wanted. -/
def written (s : String) : String :=
  match variableValue s with
  | .null => ""
  | .flag b => toString b
  | .integer n => toString n
  | .real x => Layout.running.render x
  | .text t => t

variable {s : String}

lemma variableValue_of_isFlag (h : IsFlag s) :
    ∃ b : Bool, variableValue s = .flag b ∧ Text.lower s = toString b := by
  unfold variableValue
  rcases h with h | h
  · exact ⟨true, by rw [if_pos h], h⟩
  · exact ⟨false, by rw [if_neg (by rw [h]; decide), if_pos h], h⟩

lemma variableValue_of_not_isFlag (h : ¬ IsFlag s) :
    variableValue s = match integerInRange? s.toList with
      | some n => .integer n
      | none => match Numeral.real? s.toList with
        | some x => .real x
        | none => .text s := by
  obtain ⟨htrue, hfalse⟩ := not_or.1 h
  exact (if_neg htrue).trans (if_neg hfalse)

/-- A text is kept exactly if it stands as it is written. -/
lemma written_eq_self_iff (s : String) : written s = s ↔ Verbatim s := by
  unfold written
  by_cases hflag : IsFlag s
  · obtain ⟨b, hb, hlower⟩ := variableValue_of_isFlag hflag
    rw [hb]
    constructor
    · intro h
      exact ⟨fun _ => h.symm.trans hlower.symm, fun hn => absurd hflag hn,
        fun hn => absurd hflag hn⟩
    · intro h
      exact ((h.flag hflag).trans hlower).symm
  · rw [variableValue_of_not_isFlag hflag]
    cases hn : integerInRange? s.toList with
    | some n =>
      constructor
      · intro h
        refine ⟨fun hf => absurd hf hflag, fun _ m hm => ?_, fun _ hnone => ?_⟩
        · cases hn.symm.trans hm
          exact h.symm
        · cases hn.symm.trans hnone
      · intro h
        exact (h.integer hflag n hn).symm
    | none =>
      cases hx : Numeral.real? s.toList with
      | some x =>
        constructor
        · intro h
          refine ⟨fun hf => absurd hf hflag, fun _ m hm => ?_, fun _ _ y hy => ?_⟩
          · cases hn.symm.trans hm
          · cases hx.symm.trans hy
            exact h.symm
        · intro h
          exact (h.real hflag hn x hx).symm
      | none =>
        refine iff_of_true rfl ⟨fun hf => absurd hf hflag, fun _ m hm => ?_, fun _ _ y hy => ?_⟩
        · cases hn.symm.trans hm
        · cases hx.symm.trans hy

/-- An integer is kept exactly if it has no plus, and no zero in front unless it is just this zero. -/
theorem verbatim_iff_of_integer (hflag : ¬ IsFlag s) {n : Int}
    (hn : integerInRange? s.toList = some n) :
    Verbatim s ↔ s.toList.head? ≠ some '+' ∧
      ((Numeral.splitSign s.toList).2.head? = some '0' → s.toList = ['0']) := by
  obtain ⟨hinteger, -⟩ := Option.filter_eq_some_iff.1 hn
  rw [← Numeral.toList_toString_eq_iff hinteger, String.toList_inj, eq_comm]
  constructor
  · intro h
    exact h.integer hflag n hn
  · intro h
    refine ⟨fun hf => absurd hf hflag, fun _ m hm => ?_, fun _ hnone => ?_⟩
    · cases hn.symm.trans hm
      exact h
    · cases hn.symm.trans hnone

/-- A text with a character that no numeral holds is kept, unless it is taken for a flag. -/
theorem verbatim_of_mem {c : Char} (hc : c ∈ s.toList) (hchar : Numeral.isNumeralChar c = false)
    (hflag : ¬ IsFlag s) : Verbatim s := by
  have hinteger : ∀ n, Numeral.integer? s.toList ≠ some n := by
    intro n hn
    rw [Numeral.isNumeralChar_of_integer? hn c hc] at hchar
    cases hchar
  refine ⟨fun hf => absurd hf hflag, fun _ n hn => ?_, fun _ _ x hx => ?_⟩
  · exact absurd (Option.filter_eq_some_iff.1 hn).1 (hinteger n)
  · rw [Numeral.isNumeralChar_of_real? hx c hc] at hchar
    cases hchar

lemma variableValue_ne_null (s : String) : variableValue s ≠ .null := by
  unfold variableValue
  split_ifs
  · simp
  · simp
  · split
    · simp
    · split <;> simp

lemma settingText_variableValue (s : String) (o : Option Origin) :
    Schema.settingText (.scalar (variableValue s) o) = .ok (.text (written s)) := by
  unfold written
  cases h : variableValue s with
  | null => exact absurd h (variableValue_ne_null s)
  | _ => rfl

lemma optional_variableValue (s : String) (o : Option Origin) :
    (Schema.optional .text).ofSetting (.scalar (variableValue s) o) =
      .ok (.ofOptionText (some (written s))) := by
  have htext := settingText_variableValue s o
  cases h : variableValue s with
  | null => exact absurd h (variableValue_ne_null s)
  | _ =>
    rw [h] at htext
    rw [Schema.ofSetting, Schema.ofSetting, htext]
    · rfl
    · simp

/-! ### Blank texts -/

lemma isBlankChar_of_isDigit {c : Char} (hc : c.isDigit = true) : Text.isBlankChar c = false := by
  have hrange := Numeral.range_of_isDigit hc
  simp only [Text.isBlankChar, Bool.or_eq_false_iff, Bool.and_eq_false_iff, decide_eq_false_iff_not,
    beq_eq_false_iff_ne]
  omega

lemma exists_isDigit_mem_toDigits (n : Nat) : ∃ c ∈ Nat.toDigits 10 n, c.isDigit = true := by
  obtain ⟨c, r, hcr⟩ := List.exists_cons_of_ne_nil (Nat.toDigits_ne_nil (n := n) (b := 10))
  have hc : c ∈ Nat.toDigits 10 n := by
    rw [hcr]
    exact List.mem_cons_self
  exact ⟨c, hc, Nat.isDigit_of_mem_toDigits (by decide) (by decide) hc⟩

lemma isBlank_toString (n : Int) : Text.isBlank (toString n) = false := by
  rw [Int.toString_eq_repr]
  cases n with
  | ofNat n =>
    obtain ⟨c, hc, hdigit⟩ := exists_isDigit_mem_toDigits n
    refine Text.isBlank_eq_false_of_mem (c := c) ?_ (isBlankChar_of_isDigit hdigit)
    rwa [Int.repr, Nat.repr_eq_ofList_toDigits, String.toList_ofList]
  | negSucc n =>
    refine Text.isBlank_eq_false_of_mem (c := '-') ?_ (by decide)
    simp [Int.repr]

lemma exists_mem_positional (ds : List Char) (p : Int) (h : ∃ c ∈ ds, c.isDigit = true) :
    ∃ c ∈ (Layout.running.positional ds p).toList, Text.isBlankChar c = false := by
  unfold Layout.positional
  split_ifs
  · obtain ⟨c, hc, hdigit⟩ := h
    exact ⟨c, by simp [hc], isBlankChar_of_isDigit hdigit⟩
  · dsimp only
    split_ifs
    · exact ⟨'.', by simp, by decide⟩
    · exact ⟨'.', by simp, by decide⟩

lemma isBlank_append {a b : String} (h : ∃ c ∈ b.toList, Text.isBlankChar c = false) :
    Text.isBlank (a ++ b) = false := by
  obtain ⟨c, hc, hblank⟩ := h
  refine Text.isBlank_eq_false_of_mem (c := c) ?_ hblank
  rw [String.toList_append]
  exact List.mem_append_right _ hc

lemma isBlank_render (x : Binary64) : Text.isBlank (Layout.running.render x) = false := by
  unfold Layout.render
  by_cases hnan : x.isNaN = true
  · rw [if_pos hnan]
    decide
  · rw [if_neg hnan]
    apply isBlank_append
    split_ifs
    · exact ⟨'i', by decide, by decide⟩
    · exact ⟨'0', by decide, by decide⟩
    · have hplain : Layout.running.decimal x.shortest = Layout.running.positional
          (Nat.toDigits 10 x.shortest.coefficient) x.shortest.exponent := rfl
      rw [hplain]
      exact exists_mem_positional _ _ (exists_isDigit_mem_toDigits _)

lemma eq_of_variableValue_eq_text {t : String} (h : variableValue s = .text t) : t = s := by
  unfold variableValue at h
  split_ifs at h
  split at h
  · cases h
  · split at h
    · cases h
    · cases h
      rfl

/-- A text that is not blank comes to one that is not blank either. -/
lemma isBlank_written (h : Text.isBlank s = false) : Text.isBlank (written s) = false := by
  unfold written
  cases hv : variableValue s with
  | null => exact absurd hv (variableValue_ne_null s)
  | flag b => cases b <;> decide
  | integer n => exact isBlank_toString n
  | real x => exact isBlank_render x
  | text t => rwa [eq_of_variableValue_eq_text hv]

/-- One variable sets a setting to a text, and no other one leads to it or to its group. -/
structure SetsTo (environment : List (String × String)) (name : String)
    (l : Settings.Leaf) (s : String) : Prop where
  set : Table.lookup name (Table.ofList environment) = some s
  key : variableKey? name = some l.key
  alone : ∀ e ∈ Table.ofList environment, e.1 ≠ name →
    ∀ key ∈ variableKey? e.1, Apart l.group l.name key

/-- A variable that is alone in setting a setting decides it. -/
lemma SetsTo.leaf_layer {environment : List (String × String)} {name : String}
    {l : Settings.Leaf} {t : Table Setting} (h : SetsTo environment name l s) :
    leaf l.group l.name (layer (ofVariables environment) t) =
      some (.scalar (variableValue s) (some .environment)) := by
  have hsorted : Table.Sorted (Table.ofList environment) := Table.sorted_ofList environment
  have hmem : (l.key, .scalar (variableValue s) (some .environment)) ∈
      ofVariables environment := by
    refine List.mem_filterMap.2 ⟨(name, s), Table.mem_of_lookup h.set, ?_⟩
    simp only [h.key, Option.map_some]
  refine leaf_layer_of_mem l.ofKey_key hmem fun e he => ?_
  obtain ⟨⟨name', v⟩, hv, he⟩ := List.mem_filterMap.1 he
  obtain ⟨key, hkey, rfl⟩ := Option.map_eq_some_iff.1 he
  by_cases hname : name' = name
  · subst hname
    cases h.key.symm.trans hkey
    cases h.set.symm.trans (hsorted.lookup_of_mem hv)
    exact .inl rfl
  · exact .inr (h.alone _ hv hname key hkey)

end Setting

namespace Settings

/-- The settings that are free texts. -/
inductive FreeText where
  | vendor
  | token
  | level
  deriving DecidableEq

namespace FreeText

def leaf : FreeText → Leaf
  | vendor => .vendor
  | token => .token
  | level => .level

/-- The text that a setting holds; only a token may be missing. -/
def text? (c : Settings) : FreeText → Option String
  | vendor => some c.channel.vendor
  | token => c.auth.token
  | level => some c.logging.level

end FreeText

open Setting (SetsTo written Verbatim)

variable {src : Sources} {deployment name s : String} {c : Settings} {f : FreeText}

/-- What a variable gives for a text is what it comes to, whatever the files say. -/
lemma text?_of_load (hset : SetsTo src.environment name f.leaf s)
    (h : load src deployment = .ok c) : f.text? c = some (written s) := by
  unfold load at h
  split at h
  · cases h
  · next t ht =>
    obtain ⟨base, -, ht⟩ := Option.bind_eq_some_iff.1 ht
    obtain ⟨overlay, -, ht⟩ := Option.bind_eq_some_iff.1 ht
    have hleaf : Setting.leaf f.leaf.group f.leaf.name t =
        some (.scalar (Setting.variableValue s) (some .environment)) := by
      cases ht
      exact hset.leaf_layer
    have htidy : Setting.Tidy t := by
      cases ht
      exact Setting.tidy_nil.layer.layer.layer
    have hread := leaf_of_ofTable htidy h (l := f.leaf) fun v hv => by
      obtain ⟨fs, o, hfs⟩ := Setting.exists_of_leaf hleaf
      exact ⟨fs, o, Option.some.inj (hv.symm.trans hfs)⟩
    rw [hleaf] at hread
    have htext := Setting.settingText_variableValue s (some .environment)
    cases f with
    | vendor =>
      have hvalue := Except.ok.inj (htext.symm.trans hread)
      exact congrArg some (Datum.text.inj hvalue).symm
    | level =>
      have hvalue := Except.ok.inj (htext.symm.trans hread)
      exact congrArg some (Datum.text.inj hvalue).symm
    | token =>
      have hoptional := Setting.optional_variableValue s (some .environment)
      have hvalue := Except.ok.inj (hoptional.symm.trans hread)
      have htoken := congrArg (Datum.optional? Datum.text?) hvalue
      rw [Datum.optional?_ofOptionText] at htoken
      exact (Option.some.inj (htoken.trans (Datum.optional?_ofOptionText c.auth.token))).symm

/-- Requests carry the token that the slot holds. -/
lemma getLast?_authorization {ctrl : Controller} {slot : CredentialSlot} {k : Credential}
    {a : Action} {d : DeviceId} {r : Request} (hk : slot.held = some k)
    (h : ctrl.request slot a d = .ok r) : r.authorization.getLast? = some ("Bearer " ++ k.token) := by
  unfold Controller.request at h
  split_ifs at h
  rw [hk] at h
  dsimp only at h
  unfold Request.build at h
  split at h
  · cases h
  · dsimp only at h
    split_ifs at h
    split at h
    · cases h
    · cases h
      rw [List.getLast?_append, List.getLast?_singleton, Option.some_or, Credential.bearer]

/-- A text that a variable sets is kept exactly if it is verbatim; and so is a token in its slot and
in the requests of every controller. -/
theorem load_verbatim_iff (src : Sources) (deployment name s : String) (c : Settings) (f : FreeText)
    (hset : SetsTo src.environment name f.leaf s) (h : load src deployment = .ok c) :
    (f.text? c = some s ↔ Verbatim s) ∧
      (f = .token → Text.isBlank s = false → ∃ k : Credential,
        c.auth.credentialSlot.held = some k ∧ (k.token = s ↔ Verbatim s) ∧
        ∀ (ctrl : Controller) (a : Action) (d : DeviceId) (r : Request),
          ctrl.request c.auth.credentialSlot a d = .ok r →
          (r.authorization.getLast? = some ("Bearer " ++ s) ↔ Verbatim s)) := by
  have htext : f.text? c = some (written s) := text?_of_load hset h
  constructor
  · rw [htext, Option.some.injEq]
    exact Setting.written_eq_self_iff s
  · rintro rfl hblank
    have htoken : c.auth.token = some (written s) := htext
    have hkept : Text.isBlank (written s) = false := Setting.isBlank_written hblank
    have hheld : c.auth.credentialSlot.held = some ⟨written s, hkept⟩ := by
      rw [AuthSettings.credentialSlot, htoken]
      simp [CredentialSlot.ofToken, Credential.ofToken?, hkept]
    refine ⟨⟨written s, hkept⟩, hheld, Setting.written_eq_self_iff s, ?_⟩
    intro ctrl a d r hr
    rw [getLast?_authorization hheld hr, Option.some.injEq, String.append_right_inj]
    exact Setting.written_eq_self_iff s

/-- A token with a letter that no numeral has is kept. -/
theorem load_verbatim_letters :
    let src : Sources := ⟨[("default.toml", "[auth]\ntoken = \"old\"")],
      [("NETPULSE__AUTH__TOKEN", "0123-s"), ("NETPULSE__HISTORY__MAX_EVENTS", "9")]⟩
    let c : Settings := { history := { maxEvents := 9 }, auth := ⟨some "0123-s"⟩ }
    load src "test" = .ok c ∧ Verbatim "0123-s" ∧ ∃ k : Credential,
      c.auth.credentialSlot.held = some k ∧ (k.token = "0123-s" ↔ Verbatim "0123-s") := by
  intro src c
  have h : load src "test" = .ok c := by decide +kernel
  have hset : SetsTo src.environment "NETPULSE__AUTH__TOKEN" FreeText.token.leaf "0123-s" :=
    ⟨by decide +kernel, by decide +kernel, by decide +kernel⟩
  obtain ⟨hiff, hslot⟩ := load_verbatim_iff src "test" "NETPULSE__AUTH__TOKEN" "0123-s" c .token
    hset h
  obtain ⟨k, hk, hkept, -⟩ := hslot rfl (by decide)
  exact ⟨h, hiff.1 rfl, k, hk, hkept⟩

/-- A token that starts with a zero loses it. -/
theorem leading_zero_lost :
    ∃ c, load ⟨[], [("NETPULSE__AUTH__TOKEN", "0123")]⟩ "test" = .ok c ∧
      Text.isBlank "0123" = false ∧ c.auth.token = some "123" ∧ c.auth.token ≠ some "0123" :=
  ⟨{ auth := ⟨some "123"⟩ }, by decide +kernel, by decide, rfl, by decide⟩

end Settings
end LiveTelemetry
