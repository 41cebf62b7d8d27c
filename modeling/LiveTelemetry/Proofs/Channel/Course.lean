import LiveTelemetry.Proofs.Channel.Attainable
import Mathlib.Data.List.Induction

/-!
The course of calls. Main statements: what an input can make of a call; and in every run each call
goes back to a request or to a timer, and each handshake that is awaited to the step at which its
attempt began.
-/
namespace LiveTelemetry.System

variable {s : System} {n : Nat} {k : Call} {i : Input}

/-- What an input can make of the phase of a call. -/
inductive Turn (s : System) (n : Nat) (k : Call) : Input → Phase → Prop
  | stay {i : Input} : Turn s n k i k.phase
  | proceed : Turn s n k (.proceed n) (s.channel.proceed s.clock.now k.target k.phase).2
  | conclude {i : Input} {g : Nat} {u : Url} {d : Nat} (o : Outcome)
    (hi : (∃ o, i = .outcome n o) ∨ i = .expire n) (hp : k.phase = .opening g u d) :
    Turn s n k i (s.channel.settle g o).2
  | abandon {g : Nat} {u : Url} {d : Nat} (hp : k.phase = .opening g u d) :
    Turn s n k (.abandon n) (s.channel.abandon g).2
  | giveUp (hp : k.phase = .entered) : Turn s n k (.abandon n) (.finished none)

lemma exists_turn_of_eq (i : Input) (h : (s.step i).calls[n]? = some k) :
    ∃ p, (s.step i).calls[n]? = some { k with phase := p } ∧ Turn s n k i p :=
  ⟨k.phase, h, .stay⟩

lemma getElem?_enter (hk : s.calls[n]? = some k) (t : Target) (x : Option Timer) :
    (s.enter t x).calls[n]? = some k := by
  rw [enter, List.getElem?_append_left (List.getElem?_eq_some_iff.1 hk).1]
  exact hk

lemma exists_turn_conclude (hk : s.calls[n]? = some k) (m : Nat) (o : Outcome)
    (hi : (∃ o, i = .outcome m o) ∨ i = .expire m) :
    ∃ p, (s.conclude m o).calls[n]? = some { k with phase := p } ∧ Turn s n k i p := by
  unfold conclude
  split
  · next t g u d x hm =>
    by_cases hmn : m = n
    · subst m
      obtain rfl := Option.some.inj (hm.symm.trans hk)
      exact ⟨_, getElem?_setPhase_self _ hk, .conclude _ hi rfl⟩
    · exact ⟨k.phase, (getElem?_setPhase_ne _ hmn).trans hk, .stay⟩
  · exact ⟨k.phase, hk, .stay⟩

lemma exists_turn_abandon (hk : s.calls[n]? = some k) (m : Nat) :
    ∃ p, (s.abandon m).calls[n]? = some { k with phase := p } ∧ Turn s n k (.abandon m) p := by
  by_cases hmn : m = n
  · subst m
    unfold abandon
    split
    · next t g u d x hm =>
      obtain rfl := Option.some.inj (hm.symm.trans hk)
      exact ⟨_, getElem?_setPhase_self _ hk, .abandon rfl⟩
    · next t x hm =>
      obtain rfl := Option.some.inj (hm.symm.trans hk)
      exact ⟨_, getElem?_setPhase_self _ hk, .giveUp rfl⟩
    · exact ⟨k.phase, hk, .stay⟩
  · refine ⟨k.phase, ?_, .stay⟩
    unfold abandon
    split
    · exact (getElem?_setPhase_ne _ hmn).trans hk
    · exact (getElem?_setPhase_ne _ hmn).trans hk
    · exact hk

/-- A call keeps its place, its target and its maker, and its phase takes a turn. -/
theorem exists_turn_step (hk : s.calls[n]? = some k) (i : Input) :
    ∃ p, (s.step i).calls[n]? = some { k with phase := p } ∧ Turn s n k i p := by
  cases i with
  | connect device vendor => exact exists_turn_of_eq _ (getElem?_enter hk _ _)
  | proceed m =>
    by_cases hmn : m = n
    · subst m
      exact ⟨_, calls_proceed_self hk, .proceed⟩
    · refine exists_turn_of_eq _ ?_
      cases hm : s.calls[m]? with
      | none => simpa only [step, System.proceed, hm] using hk
      | some j => exact (calls_proceed_ne hm hmn).trans hk
  | outcome m o => exact exists_turn_conclude hk m o (.inl ⟨o, rfl⟩)
  | expire m =>
    simp only [step, expire]
    split
    · split_ifs
      · exact exists_turn_conclude hk m _ (.inr rfl)
      · exact ⟨k.phase, hk, .stay⟩
    · exact ⟨k.phase, hk, .stay⟩
  | abandon m => exact exists_turn_abandon hk m
  | tidy =>
    refine exists_turn_of_eq _ ?_
    simp only [step, tidy]
    split_ifs <;> exact hk
  | frame r f =>
    refine exists_turn_of_eq _ ?_
    simp only [step, frame]
    split <;> exact hk
  | ending r e =>
    refine exists_turn_of_eq _ ?_
    simp only [step, ending]
    split <;> exact hk
  | stop r =>
    refine exists_turn_of_eq _ ?_
    simp only [step, stop]
    split
    · exact hk
    · split_ifs <;> exact hk
  | wake j =>
    refine exists_turn_of_eq _ ?_
    simp only [step, wake]
    split
    · exact hk
    · split
      · exact hk
      · exact getElem?_enter (s := { s with channel := _, woken := _ }) hk _ _
  | _ => exact exists_turn_of_eq _ hk

/-- What a settled attempt has come to. -/
def HasResult (n : Nat) (r : Option Bool) (s : System) : Prop :=
  ∃ k, s.calls[n]? = some k ∧ (k.phase = .settled r ∨ k.phase = .finished r)

variable {t : Target} {g : Nat} {u : Url} {d : Nat} {x : Option Timer} {r : Option Bool}

lemma exists_settle (g : Nat) (o : Outcome) (c : Channel) :
    ∃ b, (c.settle g o).2 = .settled (some b) := by
  cases o with
  | opened =>
    simp only [Channel.settle]
    split_ifs <;> exact ⟨_, rfl⟩
  | failed f => exact ⟨_, rfl⟩

lemma settled_step (hk : s.calls[n]? = some ⟨t, .settled r, x⟩) (hi : i ≠ .proceed n) :
    (s.step i).calls[n]? = some ⟨t, .settled r, x⟩ := by
  obtain ⟨p, hp, turn⟩ := exists_turn_step hk i
  cases turn with
  | stay => exact hp
  | proceed => exact absurd rfl hi
  | conclude _ _ hq | abandon hq | giveUp hq => cases hq

lemma HasResult.phase_eq (h : s.HasResult n r) (hk : s.calls[n]? = some k) :
    k.phase = .settled r ∨ k.phase = .finished r := by
  obtain ⟨k', hk', hr⟩ := h
  obtain rfl := Option.some.inj (hk'.symm.trans hk)
  exact hr

lemma HasResult.step (h : s.HasResult n r) (i : Input) : (s.step i).HasResult n r := by
  obtain ⟨k, hk, hr⟩ := h
  obtain ⟨p, hp, turn⟩ := exists_turn_step hk i
  refine ⟨_, hp, ?_⟩
  cases turn with
  | stay => exact hr
  | proceed =>
    right
    obtain hr | hr := hr <;> rw [hr] <;> rfl
  | conclude _ _ hq | abandon hq | giveUp hq =>
    obtain hr | hr := hr <;> exact absurd (hq.symm.trans hr) (by simp)

lemma HasResult.run (h : s.HasResult n r) (later : List Input) : (s.run later).HasResult n r := by
  induction later generalizing s with
  | nil => exact h
  | cons i is ih => exact ih (h.step i)

lemma HasResult.result_eq (h : s.HasResult n r) : s.result? n = none ∨ s.result? n = r := by
  obtain ⟨⟨t, p, x⟩, hk, rfl | rfl⟩ := h
  · exact .inl (by simp [result?, hk])
  · exact .inr (by simp [result?, hk])

/-- Of a step of a call comes a handshake only if an attempt begins. -/
lemma eq_of_proceed_eq_opening {now : Nat} {c : Channel} {p : Phase}
    (h : (c.proceed now t p).2 = .opening g u d) : p = .opening g u d ∨
      p = .prepared u ∧ c.shutDown = false ∧ g = c.generation + 1 ∧
        d = now + c.settings.timeoutMilliseconds := by
  cases p with
  | entered =>
    simp only [Channel.proceed, Channel.check] at h
    split_ifs at h
  | checked =>
    simp only [Channel.proceed, Channel.claim] at h
    split_ifs at h
  | claimed =>
    simp only [Channel.proceed, Channel.prepare] at h
    cases hk : c.credentials.held with
    | none => simp [hk] at h
    | some k => cases hu : t.address c.settings k <;> simp [hk, hu] at h
  | prepared v =>
    simp only [Channel.proceed, Channel.start] at h
    split_ifs at h with hs
    cases h
    exact .inr ⟨rfl, Bool.eq_false_iff.2 hs, rfl, rfl⟩
  | opening => exact .inl h
  | settled | finished => cases h

/-- A handshake that is awaited after a step was awaited before, or its attempt began with it. -/
lemma opening_of_step (h : (s.step i).calls[n]? = some ⟨t, .opening g u d, x⟩)
    (hk : s.calls[n]? = some k) : k = ⟨t, .opening g u d, x⟩ ∨
      i = .proceed n ∧ k = ⟨t, .prepared u, x⟩ ∧ s.channel.shutDown = false ∧
        g = s.channel.generation + 1 ∧
          d = s.clock.now + s.channel.settings.timeoutMilliseconds := by
  obtain ⟨p, hp, turn⟩ := exists_turn_step hk i
  obtain ⟨t', q, x'⟩ := k
  obtain ⟨rfl, hq, rfl⟩ : t' = t ∧ p = .opening g u d ∧ x' = x := by
    simpa using hp.symm.trans h
  cases turn with
  | stay =>
    obtain rfl : q = .opening g u d := hq
    exact .inl rfl
  | proceed =>
    obtain rfl | ⟨rfl, hs, hg, hd⟩ := eq_of_proceed_eq_opening hq
    · exact .inl rfl
    · exact .inr ⟨rfl, rfl, hs, hg, hd⟩
  | conclude o _ =>
    obtain ⟨b, hb⟩ := exists_settle _ o s.channel
    exact absurd (hb.symm.trans hq) (by simp)
  | abandon =>
    simp only [Channel.abandon] at hq
    split_ifs at hq
  | giveUp => cases hq

lemma length_setPhase (n : Nat) (p : Phase) (s : System) :
    (s.setPhase n p).calls.length = s.calls.length :=
  List.length_modify _ _ _

lemma length_conclude (n : Nat) (o : Outcome) (s : System) :
    (s.conclude n o).calls.length = s.calls.length := by
  unfold conclude
  split
  · exact length_setPhase _ _ _
  · rfl

/-- Only callers and timers make calls. -/
lemma length_step_of_ne (hc : ∀ device vendor, i ≠ .connect device vendor)
    (hw : ∀ j, i ≠ .wake j) : (s.step i).calls.length = s.calls.length := by
  cases i with
  | connect device vendor => exact absurd rfl (hc device vendor)
  | proceed n =>
    simp only [step, System.proceed]
    split
    · rfl
    · exact length_setPhase _ _ _
  | outcome n o => exact length_conclude n o s
  | expire n =>
    simp only [step, expire]
    split
    · split_ifs
      · exact length_conclude n _ s
      · rfl
    · rfl
  | abandon n =>
    simp only [step, abandon]
    split
    · exact length_setPhase _ _ _
    · exact length_setPhase _ _ _
    · rfl
  | tidy =>
    simp only [step, tidy]
    split_ifs <;> rfl
  | frame r f =>
    simp only [step, frame]
    split <;> rfl
  | ending r e =>
    simp only [step, ending]
    split <;> rfl
  | stop r =>
    simp only [step, stop]
    split
    · rfl
    · split_ifs <;> rfl
  | wake j => exact absurd rfl (hw j)
  | _ => rfl

lemma eq_of_getElem?_enter {x : Option Timer} (h : (s.enter t x).calls[n]? = some k)
    (hn : s.calls[n]? = none) : n = s.calls.length ∧ k = ⟨t, .entered, x⟩ := by
  have hlt := (List.getElem?_eq_some_iff.1 h).1
  rw [enter, List.length_append, List.length_singleton] at hlt
  have hle := List.getElem?_eq_none_iff.1 hn
  obtain rfl : n = s.calls.length := by omega
  exact ⟨rfl, by simpa [enter] using h.symm⟩

/-- A step after which there is one more call is a request, or a timer that passes its look. -/
lemma new_of_step (h : (s.step i).calls[n]? = some k) (hn : s.calls[n]? = none) :
    n = s.calls.length ∧
      ((∃ device vendor, i = .connect device vendor ∧
        k = ⟨.ofRequest s.channel.settings device vendor, .entered, none⟩) ∨
      ∃ j t, i = .wake j ∧ k = ⟨t.target, .entered, some t⟩) := by
  have hlt := (List.getElem?_eq_some_iff.1 h).1
  have hle := List.getElem?_eq_none_iff.1 hn
  by_cases hc : ∃ device vendor, i = .connect device vendor
  · obtain ⟨device, vendor, rfl⟩ := hc
    obtain ⟨hn, hk⟩ := eq_of_getElem?_enter h hn
    exact ⟨hn, .inl ⟨device, vendor, rfl, hk⟩⟩
  by_cases hw : ∃ j, i = .wake j
  · obtain ⟨j, rfl⟩ := hw
    simp only [step, wake] at h
    split at h
    · rw [hn] at h
      cases h
    · next t ht =>
      unfold Channel.wake at h
      split_ifs at h
      · obtain ⟨hn, hk⟩ := eq_of_getElem?_enter h hn
        exact ⟨hn, .inr ⟨j, t, rfl, hk⟩⟩
      · rw [hn] at h
        cases h
  · have := length_step_of_ne (s := s) (fun _ _ he => hc ⟨_, _, he⟩) (fun _ he => hw ⟨_, he⟩)
    omega

/-- A call was made by a caller with an input of the run, for what it has requested then. -/
def RequestedIn (s : System) (inputs : List Input) (n : Nat) (t : Target) : Prop :=
  ∃ before device vendor after, inputs = before ++ .connect device vendor :: after ∧
    (s.run before).calls.length = n ∧
      t = .ofRequest (s.run before).channel.settings device vendor

/-- An attempt began with an input of the run. -/
structure BeganIn (s : System) (inputs : List Input) (n g d : Nat) (before : List Input) :
    Prop where
  split : ∃ after, inputs = before ++ .proceed n :: after
  generation : g = (s.run before).channel.generation + 1
  deadline : d = (s.run before).clock.now + (s.run before).channel.settings.timeoutMilliseconds

lemma run_snoc (s : System) (is : List Input) (i : Input) :
    s.run (is ++ [i]) = (s.run is).step i :=
  run_append s is [i]

lemma settings_run (s : System) (is : List Input) :
    (s.run is).channel.settings = s.channel.settings := by
  induction is generalizing s with
  | nil => rfl
  | cons i is ih => exact (ih (s.step i)).trans (s.move_step i).settings_eq

/-- Each call goes back to a request, or to a timer whose target it keeps. -/
theorem origin_of_call (hs : s.calls = []) (inputs : List Input)
    (h : (s.run inputs).calls[n]? = some k) :
    (k.timer = none → s.RequestedIn inputs n k.target) ∧
      ∀ r, k.timer = some r → k.target = r.target := by
  induction inputs using List.reverseRecOn generalizing k with
  | nil =>
    change s.calls[n]? = some k at h
    simp [hs] at h
  | append_singleton is i ih =>
    rw [run_snoc] at h
    cases hk : (s.run is).calls[n]? with
    | none =>
      obtain ⟨hn, ⟨device, vendor, rfl, rfl⟩ | ⟨j, r, -, rfl⟩⟩ := new_of_step h hk
      · exact ⟨fun _ => ⟨is, device, vendor, [], rfl, hn.symm, rfl⟩, by simp⟩
      · refine ⟨by simp, fun r' hr => ?_⟩
        obtain rfl := Option.some.inj hr
        rfl
    | some k' =>
      obtain ⟨p, hp, -⟩ := exists_turn_step hk i
      obtain rfl := Option.some.inj (hp.symm.trans h)
      obtain ⟨hreq, htimer⟩ := ih hk
      refine ⟨fun hx => ?_, htimer⟩
      obtain ⟨before, device, vendor, after, rfl, hn, ht⟩ := hreq hx
      exact ⟨before, device, vendor, after ++ [i], by simp, hn, ht⟩

/-- Each handshake that is awaited goes back to the step with which its attempt began. -/
theorem began_of_opening (hs : s.calls = []) (inputs : List Input)
    (h : (s.run inputs).calls[n]? = some ⟨t, .opening g u d, x⟩) :
    ∃ before, s.BeganIn inputs n g d before := by
  induction inputs using List.reverseRecOn with
  | nil =>
    change s.calls[n]? = _ at h
    simp [hs] at h
  | append_singleton is i ih =>
    rw [run_snoc] at h
    cases hk : (s.run is).calls[n]? with
    | none =>
      obtain ⟨-, ⟨_, _, -, hc⟩ | ⟨_, _, -, hc⟩⟩ := new_of_step h hk <;> cases hc
    | some k' =>
      obtain rfl | ⟨rfl, -, -, hg, hd⟩ := opening_of_step h hk
      · obtain ⟨before, ⟨after, rfl⟩, hg, hd⟩ := ih hk
        exact ⟨before, ⟨after ++ [i], by simp⟩, hg, hd⟩
      · exact ⟨is, ⟨[], rfl⟩, hg, hd⟩

end LiveTelemetry.System
