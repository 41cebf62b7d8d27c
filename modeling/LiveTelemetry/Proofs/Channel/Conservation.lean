import LiveTelemetry.Proofs.Channel.Coherence
import LiveTelemetry.Proofs.Channel.Course
import LiveTelemetry.Proofs.Channel.Routing
import Mathlib.Algebra.Ring.Nat

/-!
What the counters of a channel count. Main statement: in every run each frame that a current reader
brings is counted once for what comes of it, each attempt opens at most one session, each session
is lost at most once, and no counter falls.
-/
namespace LiveTelemetry

inductive Counter where
  | received
  | ingested
  | deduplicated
  | events
  | dropped
  | attempts
  | opened
  | reconnects
  deriving DecidableEq

/-- What is counted. -/
inductive Tick where
  /-- A text brings a sample that is stored. -/
  | stored
  /-- A text brings a sample that repeats the last one. -/
  | repeated
  | dispatched
  /-- A text is no message. -/
  | malformed
  /-- Octets hold no text. -/
  | undecodable
  | attempted
  | opened
  | scheduled
  deriving DecidableEq

namespace Tick

def raises (x : Counter) : Tick → Bool
  | stored => x = .received || x = .ingested
  | repeated => x = .received || x = .deduplicated
  | dispatched => x = .received || x = .events
  | malformed => x = .received || x = .dropped
  | undecodable => x = .dropped
  | attempted => x = .attempts
  | opened => x = .opened
  | scheduled => x = .reconnects

/-- Whether it comes of a frame. -/
def isBrought : Tick → Bool
  | stored | repeated | dispatched | malformed | undecodable => true
  | attempted | opened | scheduled => false

/-- What is counted of a text that is brought to a store. -/
def ofText (clock : Channel.Clock) (store : Store) (raw : String) : Tick :=
  match Message.parse clock.text raw with
  | .ok (.metric m) =>
    if ((store.annotate m.device m.info).ingest m.device m.sample).2 then stored else repeated
  | .ok (.link _) => dispatched
  | .error _ => malformed

def ofFrame? (clock : Channel.Clock) (store : Store) : Frame → Option Tick
  | .text raw => some (ofText clock store raw)
  | .binary octets => some ((Text.Utf8.decode? octets).elim undecodable (ofText clock store))
  | .idle => none

/-- Every text is received. -/
lemma raises_received_ofText (clock : Channel.Clock) (store : Store) (raw : String) :
    (ofText clock store raw).raises .received = true := by
  unfold ofText
  split
  · split_ifs <;> rfl
  · rfl
  · rfl

lemma isBrought_of_raises_received {t : Tick} (h : t.raises .received = true) :
    t.isBrought = true := by
  cases t <;> first | rfl | cases h

lemma isBrought_of_ofFrame? {clock : Channel.Clock} {store : Store} {f : Frame} {t : Tick}
    (h : ofFrame? clock store f = some t) : t.isBrought = true := by
  have htext : ∀ raw, (ofText clock store raw).isBrought = true := fun raw =>
    isBrought_of_raises_received (raises_received_ofText clock store raw)
  cases f with
  | idle => cases h
  | text raw =>
    obtain rfl := Option.some.inj h
    exact htext raw
  | binary octets =>
    obtain rfl := Option.some.inj h
    cases Text.Utf8.decode? octets with
    | none => rfl
    | some raw => exact htext raw

lemma countP_of_isBrought {t : Option Tick} (ht : ∀ u ∈ t, u.isBrought = true) {x : Counter}
    (hx : x = .opened ∨ x = .reconnects) : t.toList.countP (raises x) = 0 := by
  cases t with
  | none => rfl
  | some u =>
    have hu : u.raises x = false := by
      obtain rfl | rfl := hx <;> cases u <;> first | rfl | cases ht _ rfl
    simp [hu]

/-- Whatever is brought is counted once for what comes of it. -/
lemma countP_balance (ts : List Tick) :
    ts.countP (raises .ingested) + ts.countP (raises .deduplicated) + ts.countP (raises .events) +
        ts.countP (raises .dropped) =
      ts.countP (raises .received) + ts.countP (· = .undecodable) := by
  induction ts with
  | nil => rfl
  | cons t ts ih =>
    simp only [List.countP_cons]
    cases t <;> simp [raises] <;> omega

end Tick

/-- Octets that hold no text. -/
def Frame.isGarbled : Frame → Bool
  | binary octets => (Text.Utf8.decode? octets).isNone
  | text _ | idle => false

namespace Counters

def get (c : Counters) : Counter → UInt64
  | .received => c.received
  | .ingested => c.ingested
  | .deduplicated => c.deduplicated
  | .events => c.events
  | .dropped => c.dropped
  | .attempts => c.attempts
  | .opened => c.opened
  | .reconnects => c.reconnects

def take (c : Counters) : Tick → Counters
  | .stored => c.receive.sample true
  | .repeated => c.receive.sample false
  | .dispatched => c.receive.event
  | .malformed => c.receive.drop
  | .undecodable => c.drop
  | .attempted => c.attempt
  | .opened => c.openSession
  | .scheduled => c.scheduleReconnect

/-- What comes of a tick, if there is one. -/
def takeAny (c : Counters) (t : Option Tick) : Counters := t.elim c c.take

@[simp] lemma takeAny_none (c : Counters) : c.takeAny none = c := rfl

lemma get_take (c : Counters) (t : Tick) (x : Counter) :
    (c.take t).get x = c.get x + if t.raises x then 1 else 0 := by
  cases t <;> cases x <;>
    simp [take, get, Tick.raises, receive, sample, event, drop, attempt, openSession,
      scheduleReconnect]

end Counters

namespace System

/-- The frame that a current reader brings. -/
def accepted? (s : System) : Input → Option Frame
  | .frame r f =>
    match s.readers[r]? with
    | none => none
    | some g => if s.channel.isCurrent g then some f else none
  | _ => none

/-- The frames that readers bring in a run while they are current. -/
def accepted (s : System) : List Input → List Frame
  | [] => []
  | i :: is => (s.accepted? i).toList ++ (s.step i).accepted is

/-- What is counted of an input. -/
def tick? (s : System) : Input → Option Tick
  | .frame r f => (s.accepted? (.frame r f)).bind (Tick.ofFrame? s.clock s.channel.store)
  | .proceed n =>
    match s.calls[n]? with
    | some ⟨_, .prepared _, _⟩ => if s.channel.shutDown then none else some .attempted
    | _ => none
  | .outcome n .opened =>
    match s.calls[n]? with
    | some ⟨_, .opening g _ d, _⟩ =>
      if s.clock.now ≤ d ∧ s.channel.isCurrent g then some .opened else none
    | _ => none
  | .ending r _ =>
    if s.readers[r]?.any s.channel.isCurrent ∧ s.channel.settings.autoReconnect then some .scheduled
    else none
  | _ => none

def ticks (s : System) : List Input → List Tick
  | [] => []
  | i :: is => (s.tick? i).toList ++ (s.step i).ticks is

/-- How often a counter changes in a run. -/
def raised (x : Counter) (s : System) : List Input → Nat
  | [] => 0
  | i :: is =>
    (if (s.step i).channel.counters.get x = s.channel.counters.get x then 0 else 1) +
      raised x (s.step i) is

end System

/-- What a tick means for the state: the sessions of a channel open and end one after the other. -/
inductive Shift : Option Tick → ChannelState → ChannelState → Prop
  | stay {t : Option Tick} (ht : ∀ u ∈ t, u.isBrought = true) (p : ChannelState) : Shift t p p
  | closed (p : ChannelState) : Shift none p .disconnected
  | attempted {p : ChannelState} (hp : p ≠ .connecting) : Shift (some .attempted) p .connecting
  | opened : Shift (some .opened) .connecting .connected
  | scheduled : Shift (some .scheduled) .connected .disconnected

/-- From one channel to the next a tick is counted, if there is one. -/
structure Counts (t : Option Tick) (c c' : Channel) : Prop where
  counters : c'.counters = c.counters.takeAny t
  shift : Shift t c.state c'.state

lemma Counts.refl (c : Channel) : Counts none c c := ⟨rfl, .stay (by simp) _⟩

namespace Channel

lemma counters_route (clock : Clock) (raw : String) (c : Channel) :
    (c.route clock raw).counters = c.counters.take (.ofText clock c.store raw) := by
  unfold route Tick.ofText
  dsimp only
  cases Message.parse clock.text raw with
  | error e => rfl
  | ok m =>
    cases m with
    | link e => rfl
    | metric m =>
      simp only [takeMetric]
      cases ((c.store.annotate m.device m.info).ingest m.device m.sample).2 <;> rfl

lemma counters_deliver (clock : Clock) (g : Nat) (f : Frame) (c : Channel) :
    (c.deliver clock g f).1.counters = c.counters.takeAny
      ((if c.isCurrent g then some f else none).bind (Tick.ofFrame? clock c.store)) := by
  cases hc : c.isCurrent g with
  | false => rw [deliver_of_not_isCurrent hc]; rfl
  | true =>
    cases f with
    | idle => rfl
    | text raw =>
      simp only [deliver, hc, if_true]
      exact counters_route clock raw c
    | binary octets =>
      simp only [deliver, hc, if_true]
      cases ho : Text.Utf8.decode? octets with
      | none => simp [Tick.ofFrame?, ho, Counters.takeAny, Counters.take, dropFrame, record]
      | some raw =>
        simp only [counters_route]
        simp [Tick.ofFrame?, ho, Counters.takeAny]

lemma counts_of_stay {c c' : Channel} (hc : c'.counters = c.counters) (hs : c'.state = c.state) :
    Counts none c c' :=
  ⟨hc, hs ▸ .stay (by simp) _⟩

lemma counts_of_closed {c c' : Channel} (hc : c'.counters = c.counters)
    (hs : c'.state = .disconnected) : Counts none c c' :=
  ⟨hc, hs ▸ .closed _⟩

lemma counts_deliver (clock : Clock) (g : Nat) (f : Frame) (c : Channel) :
    Counts ((if c.isCurrent g then some f else none).bind (Tick.ofFrame? clock c.store)) c
      (c.deliver clock g f).1 where
  counters := counters_deliver clock g f c
  shift := by
    have hs : (c.deliver clock g f).1.state = c.state :=
      congrArg Control.state (control_deliver clock g f c)
    rw [hs]
    refine .stay (fun u hu => ?_) _
    obtain ⟨f', -, hf⟩ := Option.bind_eq_some_iff.1 (Option.mem_def.1 hu)
    exact Tick.isBrought_of_ofFrame? hf

lemma counts_settle_opened {g : Nat} {c : Channel}
    (h : c.isCurrent g = true → c.state = .connecting) :
    Counts (if c.isCurrent g then some .opened else none) c (c.settle g .opened).1 := by
  simp only [settle]
  split_ifs with hc
  · refine ⟨rfl, ?_⟩
    rw [h hc]
    exact .opened
  · exact .refl c

/-- A failed handshake raises no counter. -/
lemma counts_failed (g : Nat) (f : Failure) (c : Channel) :
    Counts none c (c.settle g (.failed f)).1 := by
  by_cases hg : c.generation = g
  · exact counts_of_closed rfl (if_pos hg)
  · exact counts_of_stay rfl (if_neg hg)

lemma counts_abandon (g : Nat) (c : Channel) : Counts none c (c.abandon g).1 := by
  unfold abandon
  split_ifs
  · exact counts_of_closed rfl rfl
  · exact .refl c

/-- The end of an open channel plans to open it again, if this is to be done by itself. -/
lemma counts_finish (now : Nat) {g : Nat} (e : Ending) {c : Channel}
    (h : c.isCurrent g = true →
      c.state = .connected ∧ c.reconnectAllowed = true ∧ c.target.isSome = true) :
    Counts (if c.isCurrent g ∧ c.settings.autoReconnect then some .scheduled else none) c
      (c.finish now g e) := by
  cases hc : c.isCurrent g with
  | false =>
    rw [finish_of_not_isCurrent hc]
    exact .refl c
  | true =>
    obtain ⟨hs, ha, ht⟩ := h hc
    obtain ⟨t, ht⟩ := Option.isSome_iff_exists.1 ht
    cases hauto : c.settings.autoReconnect with
    | false =>
      refine counts_of_closed ?_ ?_ <;> simp [finish, hc, hauto, record]
    | true =>
      refine ⟨?_, ?_⟩
      · simp [finish, hc, hs, ha, hauto, schedule, record, ht, Counters.takeAny, Counters.take]
      · have hlost : (c.finish now g e).state = .disconnected :=
          congrArg Control.state (control_finish hc)
        rw [hs, hlost]
        exact .scheduled

end Channel

namespace System

variable {s : System} {n : Nat} {i : Input}

/-- While an attempt runs no other one begins: its call alone holds the right to attempt. -/
lemma not_connecting_of_prepared (h : s.skeleton.Coherent) {k : Call} {u : Url}
    (hk : s.calls[n]? = some k) (hp : k.phase = .prepared u) (hs : s.channel.shutDown = false) :
    s.channel.state ≠ .connecting := by
  intro hc
  obtain ⟨k', hmem, hg⟩ := h.connecting hs hc
  obtain ⟨m, hm⟩ := List.mem_iff_getElem?.1 hmem
  obtain rfl := h.holder_unique hm hk (Skeleton.Coherent.holds_of_generation hg) (by rw [hp]; rfl)
  obtain rfl := Option.some.inj (hm.symm.trans hk)
  rw [hp] at hg
  cases hg

lemma counts_proceed (h : s.skeleton.Coherent) (n : Nat) :
    Counts (s.tick? (.proceed n)) s.channel (s.step (.proceed n)).channel := by
  cases hk : s.calls[n]? with
  | none =>
    simp only [tick?, step, proceed, hk]
    exact .refl _
  | some k =>
    rw [proceed_eq hk]
    by_cases hb : ∃ u, k.phase = .prepared u ∧ s.channel.shutDown = false
    · obtain ⟨u, hp, hs⟩ := hb
      have hne := not_connecting_of_prepared h hk hp hs
      obtain ⟨t, p, x⟩ := k
      obtain rfl : p = .prepared u := hp
      simp only [tick?, hk, hs, Bool.false_eq_true, if_false, Channel.proceed, Channel.start]
      exact ⟨rfl, .attempted hne⟩
    · have hn : ∀ u, k.phase = .prepared u → s.channel.shutDown = true := fun u hu => by
        by_contra hs
        exact hb ⟨u, hu, Bool.eq_false_iff.2 hs⟩
      obtain ⟨a, e, hc⟩ := Channel.proceed_of_not_begins s.clock.now k.target hn
      have ht : s.tick? (.proceed n) = none := by
        simp only [tick?, hk]
        split
        · next hk' =>
          obtain rfl := Option.some.inj hk'
          rw [if_pos (hn _ rfl)]
        · rfl
      rw [ht, hc]
      exact Channel.counts_of_stay rfl rfl

lemma counts_conclude_failed (n : Nat) (f : Failure) :
    Counts none s.channel (s.conclude n (.failed f)).channel := by
  unfold conclude
  split
  · next g u d x hk =>
    have ho : ∃ f', Channel.timely s.clock.now d (.failed f) s.channel.settings = .failed f' := by
      unfold Channel.timely
      split_ifs <;> exact ⟨_, rfl⟩
    obtain ⟨f', ho⟩ := ho
    simp only [ho]
    exact Channel.counts_failed g f' s.channel
  · exact .refl _

lemma counts_opened (h : s.skeleton.Coherent) (n : Nat) :
    Counts (s.tick? (.outcome n .opened)) s.channel (s.step (.outcome n .opened)).channel := by
  cases hk : s.calls[n]? with
  | none =>
    simp only [tick?, step, conclude, hk]
    exact .refl _
  | some k =>
    obtain ⟨t, p, x⟩ := k
    cases p with
    | opening g u d =>
      simp only [tick?, step, conclude, hk]
      by_cases hd : s.clock.now ≤ d
      · simp only [Channel.timely_of_le hd, hd, true_and]
        refine Channel.counts_settle_opened fun hc => ?_
        obtain ⟨rfl, -⟩ := Channel.isCurrent_iff.1 hc
        exact (h.pending _ (List.mem_of_getElem? hk) rfl).2.1
      · have ho : Channel.timely s.clock.now d .opened s.channel.settings =
            .failed (Channel.expired s.channel.settings) := if_pos (Nat.lt_of_not_le hd)
        simp only [ho, hd, false_and, if_false]
        exact Channel.counts_failed g _ s.channel
    | _ =>
      simp only [tick?, step, conclude, hk]
      exact .refl _

lemma counts_ending (h : s.skeleton.Coherent) (r : Nat) (e : Ending) :
    Counts (s.tick? (.ending r e)) s.channel (s.step (.ending r e)).channel := by
  simp only [tick?, step, ending]
  cases hr : s.readers[r]? with
  | none => exact .refl _
  | some g =>
    refine Channel.counts_finish s.clock.now e fun hc => ?_
    obtain ⟨rfl, -⟩ := Channel.isCurrent_iff.1 hc
    obtain ⟨-, -, -, hs, ht, ha⟩ := h.reader _ (h.reader_current (List.mem_of_getElem? hr))
    exact ⟨hs, ha, ht⟩

/-- What is counted of an input is what it does to the counters. -/
theorem counts_step (h : s.skeleton.Coherent) (i : Input) :
    Counts (s.tick? i) s.channel (s.step i).channel := by
  cases i with
  | proceed n => exact counts_proceed h n
  | outcome n o =>
    cases o with
    | opened => exact counts_opened h n
    | failed f => exact counts_conclude_failed n f
  | expire n =>
    simp only [tick?, step, expire]
    split
    · split_ifs
      · exact counts_conclude_failed n _
      · exact .refl _
    · exact .refl _
  | abandon n =>
    simp only [tick?, step, abandon]
    split
    · exact Channel.counts_abandon _ _
    · exact .refl _
    · exact .refl _
  | disconnect => exact Channel.counts_of_closed rfl rfl
  | shutdown =>
    simp only [tick?, step, Channel.shutdown]
    split_ifs with hs
    · exact .refl _
    · refine Channel.counts_of_closed ?_ rfl
      simp [Channel.tidy, Channel.shut, hs, Channel.renew]
  | shut =>
    simp only [tick?, step, shut, Channel.shut]
    split_ifs
    · exact .refl _
    · exact Channel.counts_of_stay rfl rfl
  | tidy =>
    simp only [tick?, step, tidy]
    split_ifs
    · exact Channel.counts_of_closed rfl rfl
    · exact .refl _
  | frame r f =>
    simp only [tick?, accepted?, step, frame]
    cases s.readers[r]? with
    | none => exact .refl _
    | some g => exact Channel.counts_deliver ..
  | ending r e => exact counts_ending h r e
  | stop r =>
    simp only [tick?, step, stop]
    split
    · exact .refl _
    · split_ifs <;> exact .refl _
  | wake j =>
    simp only [tick?, step, wake, Channel.wake]
    split
    · exact .refl _
    · split_ifs
      · exact Channel.counts_of_stay rfl rfl
      · exact .refl _
  | _ => exact Channel.counts_of_stay rfl rfl

lemma coherent_step (h : s.skeleton.Coherent) (i : Input) : (s.step i).skeleton.Coherent :=
  h.move (s.move_step i)

lemma ticks_append (s : System) (is js : List Input) :
    s.ticks (is ++ js) = s.ticks is ++ (s.run is).ticks js := by
  induction is generalizing s with
  | nil => rfl
  | cons i is ih => rw [List.cons_append, ticks, ih, ticks, List.append_assoc]; rfl

/-- A counter changes with the inputs of which something is counted that raises it. -/
lemma raised_eq (h : s.skeleton.Coherent) (x : Counter) (inputs : List Input) :
    s.raised x inputs = (s.ticks inputs).countP (Tick.raises x) := by
  induction inputs generalizing s with
  | nil => rfl
  | cons i is ih =>
    rw [raised, ticks, List.countP_append, ih (coherent_step h i), (counts_step h i).counters]
    congr 1
    cases s.tick? i with
    | none => exact if_pos rfl
    | some t =>
      simp only [Counters.takeAny, Option.elim_some, Counters.get_take, Option.toList_some,
        List.countP_singleton]
      cases t.raises x <;> simp

lemma get_run (h : s.skeleton.Coherent) (x : Counter) (inputs : List Input) :
    (s.run inputs).channel.counters.get x =
      s.channel.counters.get x + UInt64.ofNat (s.raised x inputs) := by
  rw [raised_eq h]
  induction inputs generalizing s with
  | nil => exact (UInt64.add_zero _).symm
  | cons i is ih =>
    change ((s.step i).run is).channel.counters.get x = _
    rw [ih (coherent_step h i), (counts_step h i).counters, ticks, List.countP_append,
      UInt64.ofNat_add, ← UInt64.add_assoc]
    congr 1
    cases s.tick? i with
    | none => exact (UInt64.add_zero _).symm
    | some t =>
      simp only [Counters.takeAny, Option.elim_some, Counters.get_take, Option.toList_some,
        List.countP_singleton]
      cases t.raises x <;> rfl

/-- What is counted of an input comes of the frame that a current reader brings, or of none. -/
lemma tick?_cases (s : System) (i : Input) :
    s.tick? i = (s.accepted? i).bind (Tick.ofFrame? s.clock s.channel.store) ∨
      s.accepted? i = none ∧ ∃ t, s.tick? i = some t ∧ t.isBrought = false := by
  cases i with
  | proceed n =>
    simp only [tick?]
    split
    · split_ifs
      · exact .inl rfl
      · exact .inr ⟨rfl, _, rfl, rfl⟩
    · exact .inl rfl
  | outcome n o =>
    cases o with
    | failed f => exact .inl rfl
    | opened =>
      simp only [tick?]
      split
      · split_ifs
        · exact .inr ⟨rfl, _, rfl, rfl⟩
        · exact .inl rfl
      · exact .inl rfl
  | ending r e =>
    simp only [tick?]
    split_ifs
    · exact .inr ⟨rfl, _, rfl, rfl⟩
    · exact .inl rfl
  | _ => exact .inl rfl

/-- What is counted of frames alone is counted once for each frame it holds of. -/
lemma countP_ticks {p : Tick → Bool} {q : Frame → Bool}
    (hcourse : ∀ t, t.isBrought = false → p t = false)
    (hframe : ∀ clock store f, (Tick.ofFrame? clock store f).any p = q f)
    (s : System) (inputs : List Input) :
    (s.ticks inputs).countP p = (s.accepted inputs).countP q := by
  have hopt : ∀ {α : Type} (o : Option α) (r : α → Bool), o.toList.countP r = (o.any r).toNat := by
    intro α o r
    cases o with
    | none => rfl
    | some a => cases hr : r a <;> simp [hr]
  have hstep : ∀ (s : System) i, (s.tick? i).any p = (s.accepted? i).any q := by
    intro s i
    obtain ht | ⟨hf, t, ht, hb⟩ := s.tick?_cases i
    · rw [ht]
      cases s.accepted? i with
      | none => rfl
      | some f => exact hframe _ _ f
    · rw [ht, hf]
      exact hcourse t hb
  induction inputs generalizing s with
  | nil => rfl
  | cons i is ih =>
    rw [ticks, accepted, List.countP_append, List.countP_append, ih, hopt, hopt, hstep]

/-- One state more is left than was entered. -/
lemma countP_shift {a b : Counter} {p : ChannelState}
    (hshift : ∀ {t q q'}, Shift t q q' →
      t.toList.countP (Tick.raises a) + (decide (q' = p)).toNat ≤
        t.toList.countP (Tick.raises b) + (decide (q = p)).toNat)
    (h : s.skeleton.Coherent) (inputs : List Input) :
    (s.ticks inputs).countP (Tick.raises a) + (decide ((s.run inputs).channel.state = p)).toNat ≤
      (s.ticks inputs).countP (Tick.raises b) + (decide (s.channel.state = p)).toNat := by
  induction inputs generalizing s with
  | nil => exact Nat.le_refl _
  | cons i is ih =>
    have hhead := hshift (counts_step h i).shift
    have htail := ih (coherent_step h i)
    change _ + (decide (((s.step i).run is).channel.state = p)).toNat ≤ _
    rw [ticks, List.countP_append, List.countP_append]
    omega

/-- Each attempt opens at most one session. -/
lemma opened_le (h : s.skeleton.Coherent) (inputs : List Input) :
    s.raised .opened inputs + (decide ((s.run inputs).channel.state = .connecting)).toNat ≤
      s.raised .attempts inputs + (decide (s.channel.state = .connecting)).toNat := by
  rw [raised_eq h, raised_eq h]
  refine countP_shift (fun hs => ?_) h inputs
  cases hs with
  | stay ht =>
    rw [Tick.countP_of_isBrought ht (.inl rfl)]
    omega
  | closed => simp
  | attempted => simp [Tick.raises]
  | opened | scheduled => decide

/-- Each session is lost at most once. -/
lemma reconnects_le (h : s.skeleton.Coherent) (inputs : List Input) :
    s.raised .reconnects inputs + (decide ((s.run inputs).channel.state = .connected)).toNat ≤
      s.raised .opened inputs + (decide (s.channel.state = .connected)).toNat := by
  rw [raised_eq h, raised_eq h]
  refine countP_shift (fun hs => ?_) h inputs
  cases hs with
  | stay ht =>
    rw [Tick.countP_of_isBrought ht (.inr rfl)]
    omega
  | closed => simp
  | attempted => simp [Tick.raises]
  | opened | scheduled => decide

lemma raised_received (h : s.skeleton.Coherent) (inputs : List Input) :
    s.raised .received inputs = (s.accepted inputs).countP fun f => f.text?.isSome := by
  rw [raised_eq h]
  refine countP_ticks ?_ ?_ s inputs
  · intro t ht
    cases t <;> first | rfl | cases ht
  · intro clock store f
    cases f with
    | idle => rfl
    | text raw => exact Tick.raises_received_ofText clock store raw
    | binary octets =>
      simp only [Tick.ofFrame?, Frame.text?]
      cases Text.Utf8.decode? octets with
      | none => rfl
      | some raw => exact Tick.raises_received_ofText clock store raw

lemma countP_undecodable (s : System) (inputs : List Input) :
    (s.ticks inputs).countP (· = .undecodable) = (s.accepted inputs).countP Frame.isGarbled := by
  have htext : ∀ clock store raw, decide (Tick.ofText clock store raw = .undecodable) = false := by
    intro clock store raw
    rw [decide_eq_false_iff_not]
    intro ht
    have hr := Tick.raises_received_ofText clock store raw
    rw [ht] at hr
    cases hr
  refine countP_ticks ?_ ?_ s inputs
  · intro t ht
    cases t <;> first | rfl | cases ht
  · intro clock store f
    cases f with
    | idle => rfl
    | text raw => exact htext clock store raw
    | binary octets =>
      simp only [Tick.ofFrame?, Frame.isGarbled]
      cases Text.Utf8.decode? octets with
      | none => rfl
      | some raw => exact htext clock store raw

lemma raised_balance (h : s.skeleton.Coherent) (inputs : List Input) :
    s.raised .ingested inputs + s.raised .deduplicated inputs + s.raised .events inputs +
        s.raised .dropped inputs =
      s.raised .received inputs + (s.accepted inputs).countP Frame.isGarbled := by
  simp only [raised_eq h, ← countP_undecodable]
  exact Tick.countP_balance _

lemma raised_append (h : s.skeleton.Coherent) (x : Counter) (is js : List Input) :
    s.raised x (is ++ js) = s.raised x is + (s.run is).raised x js := by
  have hrun : (s.run is).skeleton.Coherent :=
    skeleton_run s (fun _ _ => Skeleton.Coherent.move) is h
  rw [raised_eq h, raised_eq h, raised_eq hrun, ticks_append, List.countP_append]

lemma raised_le_length (x : Counter) (s : System) (inputs : List Input) :
    s.raised x inputs ≤ inputs.length := by
  induction inputs generalizing s with
  | nil => exact Nat.le_refl _
  | cons i is ih =>
    have := ih (s.step i)
    rw [raised, List.length_cons]
    split_ifs <;> omega

/-- The counters agree with the frames that readers have brought while they were current, up to the
width of a counter. -/
structure Accounts (c : Counters) (frames : List Frame) : Prop where
  received : c.received = UInt64.ofNat (frames.countP fun f => f.text?.isSome)
  sum : c.ingested + c.deduplicated + c.events + c.dropped =
    c.received + UInt64.ofNat (frames.countP Frame.isGarbled)

/-- Nothing is lost in counting. -/
structure Balanced (s : System) (frames : List Frame) : Prop where
  received : s.channel.counters.received.toNat = frames.countP fun f => f.text?.isSome
  sum : s.channel.counters.ingested.toNat + s.channel.counters.deduplicated.toNat +
      s.channel.counters.events.toNat + s.channel.counters.dropped.toNat =
    s.channel.counters.received.toNat + frames.countP Frame.isGarbled
  opened : s.channel.counters.opened.toNat ≤ s.channel.counters.attempts.toNat
  reconnects : s.channel.counters.reconnects.toNat +
      (if s.channel.state = .connected then 1 else 0) ≤ s.channel.counters.opened.toNat

/-- What raises no counter. -/
structure Ignores (s : System) : Prop where
  superseded : ∀ r g f, s.readers[r]? = some g → s.channel.isCurrent g = false →
    (s.step (.frame r f)).channel.counters = s.channel.counters
  idle : ∀ r, (s.step (.frame r .idle)).channel.counters = s.channel.counters
  /-- Only the reconnection is counted that the end of the open channel brings about. -/
  ending : ∀ r e, (s.step (.ending r e)).channel.counters =
    if s.readers[r]?.any s.channel.isCurrent ∧ s.channel.settings.autoReconnect then
      s.channel.counters.scheduleReconnect
    else s.channel.counters

lemma ignores (h : s.skeleton.Coherent) : s.Ignores where
  superseded r g f hr hc := by
    rw [(counts_step h _).counters]
    simp only [tick?, accepted?, hr, hc, Bool.false_eq_true, if_false]
    rfl
  idle r := by
    rw [(counts_step h _).counters]
    cases hf : s.accepted? (.frame r .idle) with
    | none => simp only [tick?, hf, Option.bind_none, Counters.takeAny_none]
    | some f =>
      obtain rfl : f = .idle := by
        simp only [accepted?] at hf
        split at hf
        · cases hf
        · split_ifs at hf
          exact (Option.some.inj hf).symm
      simp only [tick?, hf]
      rfl
  ending r e := by
    rw [(counts_step h _).counters]
    simp only [tick?]
    split_ifs <;> rfl

lemma get_run_of_zero (h : s.skeleton.Coherent) (hzero : s.channel.counters = .zero) (x : Counter)
    (inputs : List Input) :
    (s.run inputs).channel.counters.get x = UInt64.ofNat (s.raised x inputs) := by
  have hx : s.channel.counters.get x = 0 := by
    rw [hzero]
    cases x <;> rfl
  rw [get_run h, hx, UInt64.zero_add]

lemma toNat_get_run (h : s.skeleton.Coherent) (hzero : s.channel.counters = .zero) {x : Counter}
    {inputs : List Input} (hlt : s.raised x inputs < 2 ^ 64) :
    ((s.run inputs).channel.counters.get x).toNat = s.raised x inputs := by
  rw [get_run_of_zero h hzero, UInt64.toNat_ofNat_of_lt' hlt]

lemma accounts_run (h : s.skeleton.Coherent) (hzero : s.channel.counters = .zero)
    (inputs : List Input) :
    Accounts (s.run inputs).channel.counters (s.accepted inputs) where
  received := by
    rw [← raised_received h]
    exact get_run_of_zero h hzero .received inputs
  sum := by
    have hsum := congrArg UInt64.ofNat (raised_balance h inputs)
    simp only [UInt64.ofNat_add, ← get_run_of_zero h hzero] at hsum
    exact hsum

lemma balanced_run (h : s.skeleton.Coherent) (hzero : s.channel.counters = .zero)
    (hs : s.channel.state = .disconnected) {inputs : List Input}
    (hlt : ∀ x, s.raised x inputs < 2 ^ 64) : (s.run inputs).Balanced (s.accepted inputs) where
  received := by
    rw [← raised_received h]
    exact toNat_get_run h hzero (hlt .received)
  sum := by
    have hsum := raised_balance h inputs
    simp only [← toNat_get_run h hzero (hlt _)] at hsum
    exact hsum
  opened := by
    have hle := opened_le h inputs
    rw [← toNat_get_run h hzero (hlt _), ← toNat_get_run h hzero (hlt _), hs] at hle
    exact Nat.le_of_add_right_le hle
  reconnects := by
    have hle := reconnects_le h inputs
    rw [← toNat_get_run h hzero (hlt _), ← toNat_get_run h hzero (hlt _), hs] at hle
    refine Nat.le_trans (Nat.add_le_add_left (Nat.le_of_eq ?_) _) hle
    by_cases hc : (s.run inputs).channel.state = .connected <;> simp [hc]

/-- No counter falls until it has been raised as often as it can be. -/
lemma get_le_get_run (h : s.skeleton.Coherent) (hzero : s.channel.counters = .zero) {x : Counter}
    {inputs later : List Input} (hlt : s.raised x (inputs ++ later) < 2 ^ 64) :
    (s.run inputs).channel.counters.get x ≤
      ((s.run inputs).run later).channel.counters.get x := by
  have hsplit := raised_append h x inputs later
  have hbefore : ((s.run inputs).channel.counters.get x).toNat = s.raised x inputs :=
    toNat_get_run h hzero (by omega)
  have hafter := toNat_get_run h hzero hlt
  rw [run_append] at hafter
  rw [UInt64.le_iff_toNat_le, hbefore, hafter]
  omega

/-- In every run each frame that a current reader brings is counted once for what comes of it, each
attempt opens at most one session and each session is lost at most once, no counter falls, and
nothing else is counted. -/
theorem conserved_run (settings : ChannelSettings) (capacity : Nat) (credentials : CredentialSlot)
    (clock : Channel.Clock) (inputs : List Input) :
    let s := new (.new settings capacity credentials) clock
    let y := s.run inputs
    Accounts y.channel.counters (s.accepted inputs) ∧
    ((∀ x, s.raised x inputs < 2 ^ 64) → y.Balanced (s.accepted inputs)) ∧
    (∀ later x, s.raised x (inputs ++ later) < 2 ^ 64 →
      y.channel.counters.get x ≤ (y.run later).channel.counters.get x) ∧
    y.Ignores := by
  intro s y
  have h : s.skeleton.Coherent := coherent_new settings capacity credentials clock
  exact ⟨accounts_run h rfl inputs, balanced_run h rfl rfl,
    fun later x => get_le_get_run h rfl, ignores (coherent_run ..)⟩

/-- A channel opens, and frames arrive. -/
def serving : List Input :=
  [.connect ⟨"r1"⟩ "", .proceed 0, .proceed 0, .proceed 0, .proceed 0, .outcome 0 .opened,
    .frame 0 (.text "?"), .frame 0 (.binary [0xff]), .frame 0 .idle]

/-- A session in which nothing arrives that could be understood. -/
theorem conserved_serving :
    (∀ x, resting.raised x serving < 2 ^ 64 ∧
      resting.raised x (serving ++ [.ending 0 .closed]) < 2 ^ 64) ∧
    (resting.run serving).channel.counters = ⟨1, 0, 0, 0, 2, 1, 1, 0⟩ ∧
    (resting.run serving).Balanced (resting.accepted serving) ∧
    (∀ x, (resting.run serving).channel.counters.get x ≤
      ((resting.run serving).run [.ending 0 .closed]).channel.counters.get x) := by
  have hlt : ∀ x is, is.length < 2 ^ 64 → resting.raised x is < 2 ^ 64 :=
    fun x is => Nat.lt_of_le_of_lt (raised_le_length x resting is)
  obtain ⟨-, hbalanced, hrises, -⟩ :=
    conserved_run {} 50 (.ofToken (some "t")) ⟨0, "now"⟩ serving
  exact ⟨fun x => ⟨hlt x _ (by decide), hlt x _ (by decide)⟩, by decide +kernel,
    hbalanced fun x => hlt x _ (by decide), fun x => hrises _ x (hlt x _ (by decide))⟩

/-- A frame that closes the open channel raises the count of reconnections. -/
theorem close_raises_reconnects :
    (resting.run serving).readers[0]?.any (resting.run serving).channel.isCurrent = true ∧
    (resting.run serving).channel.counters = ⟨1, 0, 0, 0, 2, 1, 1, 0⟩ ∧
    ((resting.run serving).step (.ending 0 .closed)).channel.counters =
      ⟨1, 0, 0, 0, 2, 1, 1, 1⟩ := by
  decide +kernel

end System
end LiveTelemetry
