import LiveTelemetry.Control.Controller
import LiveTelemetry.Proofs.Url.PercentEncoding

/-!
Addresses of control requests. Main statement: exactly which devices and bases make an address that
names the requested device behind the path of the base, and which devices share an address.
-/
namespace LiveTelemetry

namespace Url

def isKept (c : Char) : Bool := !isTabOrLineEnd c

/-- The characters of a name that are written into a path; `none` for names that are passed over. -/
def written? (name : String) : Option (List Char) :=
  if name = "." ∨ name = ".." then none else some (name.toList.filter isKept)

/-- The segments behind which names are added: a path of one empty segment counts as none. -/
def rooted (path : List String) : List String := if path = [""] then [] else path

/-- The characters that are encoded in a segment. -/
def segmentSet (special : Bool) : EncodeSet :=
  if special then .specialPathSegment else .pathSegment

/-- The segment that characters are written as. -/
def segmentOf (special : Bool) (cs : List Char) : String :=
  String.ofList (percentEncode (segmentSet special) cs)

lemma segmentSet_percent (special : Bool) : segmentSet special '%' = true := by
  cases special <;> decide

lemma segmentSet_dot (special : Bool) : segmentSet special '.' = false := by
  cases special <;> decide

@[simp] lemma percentDecode_segmentOf (special : Bool) (cs : List Char) :
    percentDecode (segmentOf special cs).toList = cs.flatMap String.utf8EncodeChar := by
  rw [segmentOf, String.toList_ofList, percentDecode_percentEncode (segmentSet_percent special)]

lemma segmentOf_inj {special : Bool} {cs ds : List Char} :
    segmentOf special cs = segmentOf special ds ↔ cs = ds := by
  refine ⟨fun h => ?_, fun h => h ▸ rfl⟩
  refine eq_of_percentDecode (segmentSet_percent special) ?_
  rw [String.ofList_injective h, percentDecode_percentEncode (segmentSet_percent special)]

lemma segmentOf_ne_empty {special : Bool} {cs : List Char} (h : cs ≠ []) :
    segmentOf special cs ≠ "" := by
  intro he
  exact h (segmentOf_inj.1 (he.trans (rfl : "" = segmentOf special [])))

/-- What a name makes of a path. -/
lemma addName_eq (special : Bool) (path : List String) (name : String) :
    addName special path name =
      match written? name with
      | none => path
      | some cs =>
        if cs = ['.', '.'] then (rooted path).dropLast ++ [""]
        else if cs = ['.'] then rooted path ++ [""]
        else rooted path ++ [segmentOf special cs] := by
  have hd := @isDoubleDot_percentEncode _ (segmentSet_percent special) (segmentSet_dot special)
  have hs := @isSingleDot_percentEncode _ (segmentSet_percent special) (segmentSet_dot special)
  unfold addName written?
  by_cases h : name = "." ∨ name = ".."
  · rw [if_pos h, if_pos h]
  · rw [if_neg h, if_neg h]
    change addSegment (percentEncode (segmentSet special)) (rooted path)
      (name.toList.filter isKept, false) = _
    simp only [addSegment, hd, hs, Bool.false_eq_true, if_false]
    rfl

lemma addName_collection (special : Bool) (path : List String) :
    addName special path "collection" = rooted path ++ ["collection"] := by
  rw [addName_eq]
  cases special <;> rfl

lemma addName_action (special : Bool) (path : List String) (a : Action) :
    addName special (path ++ ["collection"]) a.name = path ++ ["collection", a.name] := by
  have hroot : rooted (path ++ ["collection"]) = path ++ ["collection"] := by
    unfold rooted
    rw [if_neg]
    cases path with
    | nil => decide
    | cons s ss => simp
  have ha : addName special (path ++ ["collection"]) a.name =
      rooted (path ++ ["collection"]) ++ [a.name] := by
    rw [addName_eq]
    cases a <;> cases special <;> rfl
  rw [ha, hroot, List.append_assoc, List.singleton_append]

/-- A name that is written as it is: neither of one or two dots, and without tabs and line ends. -/
def IsSegment (name : String) : Prop :=
  name ≠ "." ∧ name ≠ ".." ∧ ∀ c ∈ name.toList, c ≠ '\t' ∧ c ≠ '\n' ∧ c ≠ '\r'

lemma isKept_eq_true_iff {c : Char} : isKept c = true ↔ c ≠ '\t' ∧ c ≠ '\n' ∧ c ≠ '\r' := by
  simp [isKept, isTabOrLineEnd, and_assoc]

lemma written?_eq_toList_iff {name : String} :
    written? name = some name.toList ↔ IsSegment name := by
  unfold written? IsSegment
  split_ifs with h
  · simp only [false_iff]
    rintro ⟨h₁, h₂, -⟩
    exact h.elim h₁ h₂
  · simp only [Option.some.injEq, List.filter_eq_self, isKept_eq_true_iff]
    exact ⟨fun hc => ⟨fun e => h (.inl e), fun e => h (.inr e), hc⟩, fun hc => hc.2.2⟩

instance (name : String) : Decidable (IsSegment name) :=
  decidable_of_iff _ written?_eq_toList_iff

lemma written?_ne_nil {name : String} (h : Text.isBlank name = false) :
    written? name ≠ some [] := by
  unfold written?
  split_ifs
  · simp
  · intro hnil
    rw [Option.some.injEq, List.filter_eq_nil_iff] at hnil
    refine Bool.false_ne_true (h.symm.trans (List.all_eq_true.2 fun c hc => ?_))
    have hk := hnil c hc
    rw [isKept_eq_true_iff] at hk
    by_cases h₁ : c = '\t'
    · subst h₁; rfl
    · by_cases h₂ : c = '\n'
      · subst h₂; rfl
      · by_cases h₃ : c = '\r'
        · subst h₃; rfl
        · exact absurd ⟨h₁, h₂, h₃⟩ hk

end Url

namespace Request

open Url (rooted written? segmentOf dropEmptySegment)

/-- The segments of a path without an empty one at its end. -/
def trunk (path : List String) : List String :=
  if path.getLast? = some "" then path.dropLast else path

lemma rooted_dropEmptySegment (path : List String) :
    rooted (dropEmptySegment path) = if path = ["", ""] then [] else trunk path := by
  match path with
  | [] => rfl
  | [s] =>
    by_cases hs : s = ""
    · subst hs
      rfl
    · simp [dropEmptySegment, rooted, trunk, hs]
  | s :: t :: r =>
    have hl : ¬ (s :: t :: r).length ≤ 1 := by simp
    unfold dropEmptySegment trunk
    rw [if_neg hl]
    split_ifs with h₁ h₂ h₂
    · rw [h₂]
      rfl
    · unfold rooted
      rw [if_neg]
      intro hd
      obtain ⟨front, hf⟩ := List.getLast?_eq_some_iff.1 h₁
      rw [hf, List.dropLast_concat] at hd
      rw [hd] at hf
      exact h₂ hf
    · rw [h₂] at h₁
      exact absurd rfl h₁
    · simp [rooted]

/-- The names behind the base, as the characters of the last one are written. -/
def names (special : Bool) (a : Action) : Option (List Char) → List String
  | none => ["collection", a.name]
  | some cs =>
    if cs = ['.', '.'] then ["collection", ""]
    else if cs = ['.'] then ["collection", a.name, ""]
    else ["collection", a.name, segmentOf special cs]

lemma name_ne_empty (a : Action) : a.name ≠ "" := by
  cases a <;> decide

/-- Names tell apart what is written, unless that is nothing. -/
lemma names_inj {special : Bool} {a : Action} {v w : Option (List Char)} (hv : v ≠ some [])
    (hw : w ≠ some []) : names special a v = names special a w ↔ v = w := by
  have hseg : ∀ cs, some cs ≠ some [] → segmentOf special cs ≠ "" := fun cs h =>
    Url.segmentOf_ne_empty fun hn => h (by rw [hn])
  refine ⟨fun h => ?_, fun h => h ▸ rfl⟩
  have ha := name_ne_empty a
  cases v with
  | none =>
    cases w with
    | none => rfl
    | some es =>
      simp only [names] at h
      split_ifs at h <;> simp_all
  | some cs =>
    have hcs := hseg cs hv
    cases w with
    | none =>
      simp only [names] at h
      split_ifs at h <;> simp_all
    | some es =>
      have hes := hseg es hw
      simp only [names] at h
      split_ifs at h <;> simp_all [Url.segmentOf_inj]

lemma rooted_append (path : List String) (a : Action) :
    rooted (path ++ ["collection", a.name]) = path ++ ["collection", a.name] := by
  unfold rooted
  rw [if_neg]
  intro h
  have hl := congrArg List.length h
  simp at hl

lemma endpoint?_eq {base : Url} {path : List String} (h : base.path = .segments path) (a : Action)
    (d : DeviceId) :
    endpoint? base a d = some { base with
      path := .segments (rooted (dropEmptySegment path) ++
        names (Url.isSpecial base.scheme) a (written? d.text)) } := by
  have hfront : ∀ front : List String,
      Url.addName (Url.isSpecial base.scheme) (front ++ ["collection", a.name]) d.text =
        front ++ names (Url.isSpecial base.scheme) a (written? d.text) := by
    intro front
    rw [Url.addName_eq, rooted_append]
    cases written? d.text with
    | none => rfl
    | some cs =>
      simp only [names]
      split_ifs
      · rw [List.dropLast_append_of_ne_nil (by simp), List.append_assoc]
        rfl
      · rw [List.append_assoc]
        rfl
      · rw [List.append_assoc]
        rfl
  unfold endpoint? Url.addNames?
  rw [h]
  simp only [List.foldl_cons, List.foldl_nil, Url.addName_collection, Url.addName_action, hfront]

/-- Characters are written as a segment that decodes to the device exactly if none was left out. -/
lemma percentDecode_segmentOf_iff {special : Bool} {d : DeviceId} {cs : List Char}
    (h : written? d.text = some cs) :
    Url.percentDecode (segmentOf special cs).toList = Text.Utf8.encode d.text ↔
      Url.IsSegment d.text := by
  have hcs : cs.flatMap String.utf8EncodeChar = Text.Utf8.encode (String.ofList cs) := by
    rw [Text.Utf8.encode, String.toList_ofList]
  rw [Url.percentDecode_segmentOf, hcs, Text.Utf8.encode_injective.eq_iff,
    ← Url.written?_eq_toList_iff, h, Option.some.injEq]
  exact ⟨fun e => by rw [← e, String.toList_ofList], fun e => by rw [e, String.ofList_toList]⟩

/-- There are three names, the last one of the device, exactly if that is written as it is. -/
lemma names_eq_iff {special : Bool} {a : Action} {d : DeviceId} :
    (∃ last, names special a (written? d.text) = ["collection", a.name, last] ∧
      Url.percentDecode last.toList = Text.Utf8.encode d.text) ↔ Url.IsSegment d.text := by
  cases h : written? d.text with
  | none =>
    refine iff_of_false (fun ⟨last, hl, _⟩ => by simp [names] at hl) fun hs => ?_
    rw [Url.written?_eq_toList_iff.2 hs] at h
    cases h
  | some cs =>
    have hdots : Url.IsSegment d.text → cs ≠ ['.', '.'] ∧ cs ≠ ['.'] := by
      intro hs
      rw [Url.written?_eq_toList_iff.2 hs, Option.some.injEq] at h
      subst h
      exact ⟨fun e => hs.2.1 (String.toList_inj.1 e), fun e => hs.1 (String.toList_inj.1 e)⟩
    unfold names
    dsimp only
    split_ifs with h₁ h₂
    · exact iff_of_false (fun ⟨last, hl, _⟩ => by simp at hl) fun hs => (hdots hs).1 h₁
    · refine iff_of_false (fun ⟨last, hl, he⟩ => ?_) fun hs => (hdots hs).2 h₂
      obtain rfl : "" = last := by simpa using hl
      have hd : "" = d.text := Text.Utf8.encode_injective he
      rw [← hd, h₂] at h
      exact absurd h (by decide)
    · rw [← @percentDecode_segmentOf_iff special d cs h]
      simp

/-- An address names an action on a device behind the path of a base, and nothing else of the base
is changed. -/
structure Addresses (base : Url) (a : Action) (d : DeviceId) (u : Url) : Prop where
  others : u = { base with path := u.path }
  path : ∃ segments last, base.path = .segments segments ∧
    u.path = .segments (trunk segments ++ ["collection", a.name, last]) ∧
    Url.percentDecode last.toList = Text.Utf8.encode d.text

lemma addresses_iff {base u : Url} {path : List String} {a : Action} {d : DeviceId}
    (h : base.path = .segments path) (hu : endpoint? base a d = some u) :
    Addresses base a d u ↔ Url.IsSegment d.text ∧ path ≠ ["", ""] := by
  rw [endpoint?_eq h, Option.some.injEq, rooted_dropEmptySegment] at hu
  subst hu
  rw [← @names_eq_iff (Url.isSpecial base.scheme) a d]
  constructor
  · rintro ⟨-, segments, last, hs, hp, hl⟩
    rw [h, Url.Path.segments.injEq] at hs
    subst hs
    rw [Url.Path.segments.injEq] at hp
    by_cases h₀ : path = ["", ""]
    · subst h₀
      rw [if_pos rfl, List.nil_append] at hp
      exfalso
      have hlen := congrArg List.length hp
      unfold names at hlen
      split at hlen
      · simp [trunk] at hlen
      · split_ifs at hlen <;> simp [trunk] at hlen
    · rw [if_neg h₀] at hp
      exact ⟨⟨last, List.append_cancel_left hp, hl⟩, h₀⟩
  · rintro ⟨⟨last, hn, hl⟩, h₀⟩
    exact ⟨rfl, path, last, h, by rw [if_neg h₀, hn], hl⟩

end Request

namespace Controller

open Url (written?)

lemma base_of_new {s : ControlSettings} {c : Controller} (h : new s = .ok c) :
    ∃ path, c.base.path = .segments path := by
  unfold new at h
  split at h
  · cases h
  · split_ifs at h with hp
    cases h
    unfold Url.isPlain at hp
    split at hp
    · exact absurd rfl hp
    · exact ⟨_, ‹_›⟩

/-- Every device that is not blank has an address. It differs from the base in the path only; it
names the device behind the path of the base exactly if the device is no dot segment and holds no
tab or line end, and the path of the base is not that of two slashes; and it is shared by just those
devices of which the same characters are written. -/
theorem endpoint_addresses_iff (s : ControlSettings) (c : Controller) (h : new s = .ok c)
    (a : Action) (d : DeviceId) (hd : d.isBlank = false) :
    ∃ u, Request.endpoint? c.base a d = some u ∧ u = { c.base with path := u.path } ∧
      (Request.Addresses c.base a d u ↔
        Url.IsSegment d.text ∧ c.base.path ≠ .segments ["", ""]) ∧
      ∀ d' : DeviceId, d'.isBlank = false →
        (Request.endpoint? c.base a d' = some u ↔ written? d'.text = written? d.text) := by
  obtain ⟨path, hpath⟩ := base_of_new h
  refine ⟨_, Request.endpoint?_eq hpath a d, rfl, ?_, fun d' hd' => ?_⟩
  · rw [Request.addresses_iff hpath (Request.endpoint?_eq hpath a d), hpath, ne_eq, ne_eq,
      Url.Path.segments.injEq]
  · rw [Request.endpoint?_eq hpath, Option.some.injEq, ← @Request.names_inj
      (Url.isSpecial c.base.scheme) a _ _ (Url.written?_ne_nil hd') (Url.written?_ne_nil hd)]
    simp

/-- A device with a blank, a slash and a per cent sign is named by one segment. -/
theorem endpoint_addresses_gate : ∃ c u,
    new { apiUrl := "http://localhost:8000/api/" } = .ok c ∧
    Request.endpoint? c.base .start ⟨"gate 1/%2e"⟩ = some u ∧
    u.path = .segments ["api", "collection", "start", "gate%201%2F%252e"] ∧
    Request.Addresses c.base .start ⟨"gate 1/%2e"⟩ u := by
  obtain ⟨u, hu, -, hiff, -⟩ := endpoint_addresses_iff { apiUrl := "http://localhost:8000/api/" }
    ⟨⟨"http", "", none, some "localhost", some 8000, .segments ["api", ""], none, none⟩, 15000,
      none⟩ rfl .start ⟨"gate 1/%2e"⟩ (by decide)
  refine ⟨_, u, rfl, hu, ?_, hiff.2 ⟨by decide, by decide⟩⟩
  obtain rfl := Option.some.inj hu
  decide

/-- Line ends are left out of an address, so that two devices share one, and the second of two dots
leads out of the segments. -/
theorem line_end_unwritten : ∃ c u v,
    new { apiUrl := "http://localhost/api" } = .ok c ∧
    Request.endpoint? c.base .start ⟨"a\nb"⟩ = some u ∧
    Request.endpoint? c.base .start ⟨"ab"⟩ = some u ∧
    ¬ Request.Addresses c.base .start ⟨"a\nb"⟩ u ∧
    Request.endpoint? c.base .start ⟨".\t."⟩ = some v ∧
    v.path = .segments ["api", "collection", ""] := by
  refine ⟨⟨⟨"http", "", none, some "localhost", none, .segments ["api"], none, none⟩, 15000,
      none⟩, _, _, rfl, rfl, by decide, ?_, rfl, by decide⟩
  rw [Request.addresses_iff rfl rfl]
  decide

end Controller
end LiveTelemetry
