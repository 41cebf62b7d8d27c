import LiveTelemetry.Channel.Target
import LiveTelemetry.Proofs.Url.Form

/-!
Addresses of subscriptions. Main statement: whatever the device, the vendor and the token are, the
query of the address is read back as the pairs of the configured one and exactly these three, so
that no two subscriptions share an address.
-/
namespace LiveTelemetry

namespace Url

/-- A character that is encoded does not occur, but for those that encoding writes itself. -/
lemma notMem_percentEncode {set : EncodeSet} {d : Char} (hset : set d = true) (hd : d ≠ '%')
    (hform : isFormChar d = false) (cs : List Char) : d ∉ percentEncode set cs := by
  intro h
  obtain ⟨c, -, hc⟩ := List.mem_flatMap.1 h
  split_ifs at hc with he
  · rcases mem_percentChar hc with hc | hc
    · exact hd hc
    · rw [hform] at hc
      cases hc
  · rw [List.mem_singleton.1 hc] at hset
    exact he hset

/-- The mark that begins a fragment does not occur in a query. -/
def QueryEnds (q : Option String) : Prop := ∀ s ∈ q, '#' ∉ s.toList

lemma queryEnds_queryAndFragment (special : Bool) (cs : List Char) :
    QueryEnds (queryAndFragment special cs).1 := by
  intro s hs
  unfold queryAndFragment at hs
  split at hs
  · rw [← Option.some.inj hs, String.toList_ofList]
    cases special <;> exact notMem_percentEncode (by decide) (by decide) (by decide) _
  · cases hs
  · cases hs

variable {cs : List Char} {scheme : String} {u : Url}

lemma exists_of_bind_eq_ok {ε α β : Type} {x : Except ε α} {f : α → Except ε β} {b : β}
    (h : x >>= f = .ok b) : ∃ a, x = .ok a ∧ f a = .ok b := by
  cases x with
  | error e => cases h
  | ok a => exact ⟨a, rfl, h⟩

lemma queryEnds_afterSlashes (h : afterSlashes scheme cs = .ok u) : QueryEnds u.query := by
  obtain ⟨a, -, h⟩ := exists_of_bind_eq_ok h
  cases h
  exact queryEnds_queryAndFragment _ _

lemma queryEnds_fileAddress (h : fileAddress cs = .ok u) : QueryEnds u.query := by
  unfold fileAddress at h
  split at h
  split_ifs at h
  · cases h
    exact queryEnds_queryAndFragment _ _
  · obtain ⟨host, -, h⟩ := exists_of_bind_eq_ok h
    cases h
    exact queryEnds_queryAndFragment _ _

/-- The query of an address that was read ends where its fragment begins. -/
theorem queryEnds_parse {s : String} (h : parse s = .ok u) : QueryEnds u.query := by
  unfold parse parseChars at h
  split at h
  · cases h
  · split_ifs at h
    · exact queryEnds_fileAddress h
    · exact queryEnds_afterSlashes h
    · split at h
      · exact queryEnds_afterSlashes h
      · cases h
        exact queryEnds_queryAndFragment _ _

lemma queryEnds_addPairs (h : QueryEnds u.query) (ps : List (String × String)) :
    QueryEnds (u.addPairs ps).query := by
  intro s hs
  have hnew : '#' ∉ (formText ps).toList :=
    notMem_formText (by decide) (by decide) (by decide) ps
  have hold : '#' ∉ (u.query.getD "").toList := by
    cases hq : u.query with
    | none => exact List.not_mem_nil
    | some q => exact h q hq
  unfold addPairs at hs
  dsimp only at hs
  rw [← formText] at hs
  rw [← Option.some.inj hs]
  split_ifs
  · exact hnew
  · simpa using ⟨hold, hnew⟩

/-- Addresses that differ at most in their queries have the same text only with the same query. -/
lemma query_eq_of_render {q r : String}
    (h : render { u with query := some q } = render { u with query := some r }) : q = r := by
  unfold render requestText at h
  have h := congrArg String.toList h
  simp only [String.toList_append] at h
  have hq : q.toList = r.toList := by
    have h := List.append_cancel_right h
    have h := List.append_cancel_left h
    exact List.append_cancel_left h
  exact String.toList_inj.1 hq

end Url

namespace Target

lemma parameters_inj {t t' : Target} {c c' : Credential}
    (h : t'.parameters c' = t.parameters c) : t' = t ∧ c' = c := by
  obtain ⟨⟨d⟩, v⟩ := t
  obtain ⟨⟨d'⟩, v'⟩ := t'
  obtain ⟨k, hk⟩ := c
  obtain ⟨k', hk'⟩ := c'
  simpa [parameters, and_assoc] using h

/-- An address is made for every device, vendor and token. It differs from the configured one in its
query alone, which ends where the fragment begins and is read back as the pairs that were configured
and those of the subscription. Its text belongs to no other subscription. -/
theorem address_parameters (s : ChannelSettings) (u : Url) (h : Url.parse s.url = .ok u)
    (t : Target) (c : Credential) :
    ∃ q, address s t c = .ok { u with query := some q } ∧ '#' ∉ q.toList ∧
      Url.readForm q.toList = Url.readForm u.queryChars ++
        [("device_id", t.device.text), ("vendor", t.vendor), ("token", c.token)] ∧
      ∀ t' c' v, address s t' c' = .ok v →
        v.render = Url.render { u with query := some q } → t' = t ∧ c' = c := by
  have haddress : ∀ t c, address s t c = .ok (u.addPairs (parameters t c)) := by
    intro t c
    unfold address
    rw [h]
  have hform : ∀ t c q, u.addPairs (parameters t c) = { u with query := some q } →
      Url.readForm q.toList = Url.readForm u.queryChars ++ parameters t c := by
    intro t c q hq
    have hread := Url.readForm_addPairs (parameters t c) u
    rwa [hq] at hread
  obtain ⟨q, hq⟩ : ∃ q, u.addPairs (t.parameters c) = { u with query := some q } := ⟨_, rfl⟩
  have hends : '#' ∉ q.toList := by
    have hends := Url.queryEnds_addPairs (Url.queryEnds_parse h) (t.parameters c)
    rw [hq] at hends
    exact hends q rfl
  refine ⟨q, (haddress t c).trans (congrArg _ hq), hends, hform t c q hq, ?_⟩
  intro t' c' v hv hrender
  obtain ⟨r, hr⟩ : ∃ r, u.addPairs (t'.parameters c') = { u with query := some r } := ⟨_, rfl⟩
  rw [haddress, hr, Except.ok.injEq] at hv
  subst hv
  have hqr : r = q := Url.query_eq_of_render hrender
  subst hqr
  have hparameters : t'.parameters c' = t.parameters c :=
    List.append_cancel_left ((hform t' c' r hr).symm.trans (hform t c r hq))
  exact parameters_inj hparameters

/-- A device that tries to bring a token of its own, a vendor that tries to begin a fragment. -/
theorem address_parameters_hostile : ∃ u q,
    Url.parse "wss://noc.example.net/feed?site=a+b&&x#top" = .ok u ∧
    address { url := "wss://noc.example.net/feed?site=a+b&&x#top" }
      ⟨⟨"r1&token=mine"⟩, "v=#%26 é"⟩ ⟨"+%41\n", rfl⟩ = .ok { u with query := some q } ∧
    u.fragment = some "top" ∧ '#' ∉ q.toList ∧
    Url.readForm q.toList = [("site", "a b"), ("x", ""), ("device_id", "r1&token=mine"),
      ("vendor", "v=#%26 é"), ("token", "+%41\n")] := by
  obtain ⟨q, haddress, hends, hread, -⟩ := address_parameters
    { url := "wss://noc.example.net/feed?site=a+b&&x#top" }
    ⟨"wss", "", none, some "noc.example.net", none, .segments ["feed"], some "site=a+b&&x",
      some "top"⟩ rfl ⟨⟨"r1&token=mine"⟩, "v=#%26 é"⟩ ⟨"+%41\n", rfl⟩
  exact ⟨_, q, rfl, haddress, rfl, hends, hread.trans (by decide +kernel)⟩

end Target
end LiveTelemetry
