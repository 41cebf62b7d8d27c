import LiveTelemetry.Proofs.Control.Endpoint
import Mathlib.Algebra.Ring.Nat

/-!
Requests to the control service. Main statements: a call gets as far as a request exactly if it has
a device, a credential and an address that requests can be sent to; an address to stop a collection
is such a one if that to start it is; and devices with very long names have none.
-/
namespace LiveTelemetry

namespace Text.Utf8

lemma length_encode (s : String) : (encode s).length = s.utf8ByteSize := by
  rw [← String.size_toByteArray, ← String.utf8Encode_toList, List.utf8Encode,
    List.size_toByteArray, encode]

end Text.Utf8

namespace Url

/-- Requests can be sent to an address: it is one of the web, its host and port are written in
characters that requests may hold there, and it has at most 65534 octets. -/
structure Requestable (u : Url) : Prop where
  scheme : u.scheme = "http" ∨ u.scheme = "https"
  host : ∃ h, u.host = some h ∧ h ≠ ""
  authority : Dial.checkAuthority (u.authorityText.toList.drop 2) = .ok ()
  size : u.render.utf8ByteSize ≤ 65534

lemma checkForm_eq_ok_iff {u : Url} (hscheme : u.scheme.length ≤ Dial.schemeLimit) :
    Dial.checkForm u = .ok () ↔ (∃ h, u.host = some h ∧ h ≠ "") ∧
      Dial.checkAuthority (u.authorityText.toList.drop 2) = .ok () ∧
      u.render.utf8ByteSize ≤ 65534 := by
  have hshort : ¬(u.host.isSome && decide (Dial.schemeLimit < u.scheme.length)) = true := by
    simp [Nat.not_lt.2 hscheme]
  unfold Dial.checkForm
  rw [if_neg hshort]
  split_ifs with hlong
  · exact iff_of_false (fun h => nomatch h) fun h => Nat.not_lt.2 h.2.2 hlong
  · rw [Dial.lengthLimit, Nat.not_lt] at hlong
    cases hhost : u.host with
    | none =>
      refine iff_of_false (fun h => ?_) fun ⟨⟨_, h, _⟩, _⟩ => nomatch h
      split at h <;> cases h
    | some h =>
      have hauthority : Dial.authority u = u.authorityText.toList.drop 2 := by
        rw [Dial.authority, hhost]
      rw [hauthority]
      cases Dial.checkAuthority (u.authorityText.toList.drop 2) with
      | error r => exact iff_of_false (fun h => nomatch h) fun h => nomatch h.2.1
      | ok => simp [hlong]

lemma requestable_iff (u : Url) : u.Requestable ↔
    (u.scheme = "http" ∨ u.scheme = "https") ∧ Dial.checkForm u = .ok () := by
  have hshort : u.scheme = "http" ∨ u.scheme = "https" →
      u.scheme.length ≤ Dial.schemeLimit := by
    rintro (h | h) <;> rw [h] <;> decide
  constructor
  · rintro ⟨hs, hh, ha, hn⟩
    exact ⟨hs, (checkForm_eq_ok_iff (hshort hs)).2 ⟨hh, ha, hn⟩⟩
  · rintro ⟨hs, hf⟩
    obtain ⟨hh, ha, hn⟩ := (checkForm_eq_ok_iff (hshort hs)).1 hf
    exact ⟨hs, hh, ha, hn⟩

instance (u : Url) : Decidable u.Requestable := decidable_of_iff _ (requestable_iff u).symm

/-! ### The size of an address -/

/-- Decoding makes nothing longer. -/
lemma length_percentDecode_le (cs : List Char) :
    (percentDecode cs).length ≤ (cs.flatMap String.utf8EncodeChar).length := by
  have hpos : ∀ c : Char, 0 < (String.utf8EncodeChar c).length := fun c => by
    rw [String.length_utf8EncodeChar]
    exact c.utf8Size_pos
  fun_induction percentDecode cs with
  | case1 => simp
  | case2 a b r o ho ih =>
    simp only [List.flatMap_cons, List.length_cons, List.length_append]
    have := hpos a
    omega
  | case3 a b r ho ih =>
    have h := hpos '%'
    simp only [List.flatMap_cons, List.length_cons, List.length_append] at ih ⊢
    omega
  | case4 c r hc ih =>
    simp only [List.flatMap_cons, List.length_append]
    omega

lemma utf8ByteSize_text (ss : List String) :
    (Path.segments ss).text.utf8ByteSize = (ss.map fun s => s.utf8ByteSize + 1).sum := by
  suffices ∀ r : String, ((ss.map ("/" ++ ·)).foldl (· ++ ·) r).utf8ByteSize =
      r.utf8ByteSize + (ss.map fun s => s.utf8ByteSize + 1).sum by
    exact (this "").trans (Nat.zero_add _)
  induction ss with
  | nil => exact fun _ => rfl
  | cons s ss ih =>
    intro r
    have hslash : "/".utf8ByteSize = 1 := rfl
    simp only [List.map_cons, List.foldl_cons, ih, String.utf8ByteSize_append, hslash,
      List.sum_cons]
    omega

/-- Of addresses that differ in the path only, one is longer than another by as much as its path. -/
lemma exists_size_render {u : Url} {h : String} (hh : u.host = some h) :
    ∃ n, ∀ p : Path, { u with path := p }.render.utf8ByteSize = n + p.text.utf8ByteSize := by
  refine ⟨{ u with path := .segments [] }.render.utf8ByteSize, fun p => ?_⟩
  have hpath : ∀ p : Path, { u with path := p }.pathText = p.text := fun p => by
    simp [pathText, hh]
  have hempty : (Path.segments []).text.utf8ByteSize = 0 := rfl
  simp only [render, requestText, hpath, String.utf8ByteSize_append, hempty]
  have hauthority : ∀ p : Path, { u with path := p }.authorityText = u.authorityText := fun _ => rfl
  simp only [hauthority]
  omega

end Url

namespace Request

open Url (rooted written? segmentOf dropEmptySegment)

/-- A request for an action on a device can be put together. -/
structure Sendable (base : Url) (a : Action) (d : DeviceId) (k : Credential) : Prop where
  header : Http.isHeaderValue k.bearer = true
  address : ∃ u ∈ endpoint? base a d, (Http.bare u).Requestable

instance (base : Url) (a : Action) (d : DeviceId) (k : Credential) :
    Decidable (Sendable base a d k) :=
  decidable_of_iff (Http.isHeaderValue k.bearer = true ∧
    ∃ u ∈ endpoint? base a d, (Http.bare u).Requestable)
    ⟨fun h => ⟨h.1, h.2⟩, fun h => ⟨h.header, h.address⟩⟩

/-- A request asks for an action on a device, and shows a credential. -/
structure Carries (base : Url) (a : Action) (d : DeviceId) (k : Credential) (r : Request) :
    Prop where
  action : r.action = a
  url : (endpoint? base a d).map Http.bare = some r.url
  authorization : r.authorization = (Http.basic? base).toList ++ ["Bearer " ++ k.token]

variable {base : Url} {path : List String} {a : Action} {d : DeviceId} {k : Credential}

/-- A request is put together exactly if it can be; otherwise the failure is one of transport. -/
lemma build_cases (h : base.path = .segments path) (a : Action) (d : DeviceId) (k : Credential) :
    (∃ r, build base a d k = .ok r ∧ Sendable base a d k ∧ Carries base a d k r) ∨
      ∃ f, build base a d k = .error f ∧ ¬Sendable base a d k ∧ f.kind = .transport ∧
        f.status = none := by
  obtain ⟨u, hu, hbasic⟩ : ∃ u, endpoint? base a d = some u ∧ Http.basic? u = Http.basic? base :=
    ⟨_, endpoint?_eq h a d, rfl⟩
  have hone : ∀ {v}, v ∈ endpoint? base a d → v = u := fun hv =>
    Option.some.inj (hv.symm.trans hu)
  by_cases hheader : Http.isHeaderValue k.bearer = true
  · by_cases hreq : (Http.bare u).Requestable
    · obtain ⟨hscheme, hform⟩ := (Url.requestable_iff _).1 hreq
      rw [Http.scheme_bare] at hscheme
      have hweb : (u.scheme == "http" || u.scheme == "https") = true := by
        rcases hscheme with h | h <;> simp [h]
      refine .inl ⟨⟨a, Http.bare u, (Http.basic? u).toList ++ [k.bearer]⟩, ?_,
        ⟨hheader, u, hu, hreq⟩, rfl, by rw [hu]; rfl, by rw [hbasic]; rfl⟩
      simp [build, hu, hheader, hweb, hform]
    · refine .inr ⟨unbuildableFor (Http.bare u), ?_, ?_, rfl, rfl⟩
      · rw [Url.requestable_iff, Http.scheme_bare, not_and] at hreq
        by_cases hweb : u.scheme = "http" ∨ u.scheme = "https"
        · have hform := hreq hweb
          cases hf : Dial.checkForm (Http.bare u) with
          | ok => exact absurd hf hform
          | error => rcases hweb with h | h <;> simp [build, hu, hheader, h, hf]
        · rw [not_or] at hweb
          simp [build, hu, hheader, hweb]
      · rintro ⟨-, v, hv, hr⟩
        exact hreq (hone hv ▸ hr)
  · refine .inr ⟨unbuildable, ?_, fun hs => hheader hs.header, rfl, rfl⟩
    simp [build, hu, hheader]

/-! ### Addresses that are too long -/

/-- Those names of an address to stop a collection are shorter. -/
lemma utf8ByteSize_names_stop_le (special : Bool) (front : List String) (v : Option (List Char)) :
    (Url.Path.segments (front ++ names special .stop v)).text.utf8ByteSize ≤
      (Url.Path.segments (front ++ names special .start v)).text.utf8ByteSize := by
  have hstop : Action.stop.name.utf8ByteSize = 4 := rfl
  have hstart : Action.start.name.utf8ByteSize = 5 := rfl
  simp only [Url.utf8ByteSize_text, List.map_append, List.sum_append]
  refine Nat.add_le_add_left ?_ _
  unfold names
  split
  · simp [hstop, hstart]
  · split_ifs <;> simp [hstop, hstart]

/-- Whoever could start a collection can stop it. -/
lemma Sendable.stop (hpath : base.path = .segments path) (h : Sendable base .start d k) :
    Sendable base .stop d k := by
  obtain ⟨hheader, u, hu, hreq⟩ := h
  rw [endpoint?_eq hpath, Option.mem_def, Option.some.injEq] at hu
  subst hu
  rw [Http.bare_setPath] at hreq
  obtain ⟨hscheme, ⟨host, hhost, hne⟩, hauthority, hsize⟩ := hreq
  obtain ⟨n, hn⟩ := Url.exists_size_render (u := Http.bare base) hhost
  refine ⟨hheader, _, endpoint?_eq hpath .stop d, ?_⟩
  rw [Http.bare_setPath]
  refine ⟨hscheme, ⟨host, hhost, hne⟩, hauthority, ?_⟩
  rw [hn] at hsize ⊢
  have hle := utf8ByteSize_names_stop_le (Url.isSpecial base.scheme)
    (rooted (dropEmptySegment path)) (written? d.text)
  exact Nat.le_trans (Nat.add_le_add_left hle n) hsize

/-- A device whose name is longer than any address has none. -/
lemma not_sendable_of_long (hpath : base.path = .segments path) (hd : Url.IsSegment d.text)
    (hlong : 65534 < d.text.utf8ByteSize) : ¬Sendable base a d k := by
  rintro ⟨-, u, hu, hreq⟩
  obtain ⟨host, hhost, -⟩ := hreq.host
  obtain ⟨n, hn⟩ := Url.exists_size_render hhost
  obtain ⟨last, hnames, hdecode⟩ := (@names_eq_iff (Url.isSpecial base.scheme) a d).2 hd
  have hlast : d.text.utf8ByteSize ≤ last.utf8ByteSize := by
    rw [← Text.Utf8.length_encode, ← Text.Utf8.length_encode, ← hdecode]
    exact Url.length_percentDecode_le last.toList
  have hpathSize : last.utf8ByteSize ≤ u.path.text.utf8ByteSize := by
    rw [endpoint?_eq hpath, Option.mem_def, Option.some.injEq, hnames] at hu
    rw [← hu]
    simp only [Url.utf8ByteSize_text, List.map_append, List.sum_append, List.map_cons,
      List.sum_cons]
    omega
  have hrender : (Http.bare u).render.utf8ByteSize = n + u.path.text.utf8ByteSize := by
    rw [← Http.path_bare, ← hn]
  have hsize := hreq.size
  omega

end Request
end LiveTelemetry
