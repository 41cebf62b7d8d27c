import LiveTelemetry.Proofs.Channel.Skeleton
import LiveTelemetry.Proofs.Link.Fanout
import LiveTelemetry.Proofs.Text.Utf8
import Mathlib.Data.List.Induction

/-!
Routing of what a channel brings in. Main statement: after any run, the store holds what comes of
the metric messages that current readers brought since it was last cleared, and every log holds
what comes of the link events that they brought while it was subscribed.
-/
namespace LiveTelemetry

/-- The text in a frame. -/
def Frame.text? : Frame → Option String
  | text raw => some raw
  | binary octets => Text.Utf8.decode? octets
  | idle => none

/-- A frame holds a text, as it is or in UTF-8. -/
inductive Frame.Holds : Frame → String → Prop
  | text (raw : String) : Holds (.text raw) raw
  | binary (raw : String) : Holds (.binary (Text.Utf8.encode raw)) raw

lemma Frame.text?_eq_some_iff {f : Frame} {raw : String} : f.text? = some raw ↔ f.Holds raw := by
  constructor
  · intro h
    cases f with
    | idle => cases h
    | text raw' =>
      cases h
      exact .text raw
    | binary octets =>
      rw [Text.Utf8.decode?_eq_some_iff.1 h]
      exact .binary raw
  · rintro (_ | _)
    · rfl
    · exact Text.Utf8.decode?_encode raw

/-- A change to the store or the logs of a channel, as it is asked for or brought in. -/
inductive Change where
  | cleared
  | subscribed (name : String) (log : LinkLog)
  | unsubscribed (id : Nat)
  /-- A teardown dismisses all observers. -/
  | dismissed
  /-- A reader that was current at that time brought a metric message. -/
  | metric (m : MetricMessage)
  /-- A reader that was current at that time brought a link event; the time is in milliseconds. -/
  | link (now : Nat) (e : LinkEvent)

namespace Change

def isClear : Change → Bool
  | cleared => true
  | _ => false

def metric? : Change → Option MetricMessage
  | metric m => some m
  | _ => none

/-- The metric messages that came since the store was last cleared, in the order of arrival. -/
def metrics (hs : List Change) : List MetricMessage :=
  ((hs.reverse.takeWhile fun h => !h.isClear).reverse).filterMap metric?

/-- What a text brings. -/
def ofText? (clock : Channel.Clock) (raw : String) : Option Change :=
  match Message.parse clock.text raw with
  | .ok (.metric m) => some (.metric m)
  | .ok (.link e) => some (.link clock.now e)
  | .error _ => none

end Change

/-- What a metric message makes of a store. -/
def Store.take (s : Store) (m : MetricMessage) : Store :=
  ((s.annotate m.device m.info).ingest m.device m.sample).1

/-- What an event makes of a log, at a time in nanoseconds. -/
def LinkLog.take (l : LinkLog) (e : Nat × LinkEvent) : LinkLog := (l.ingest e.1 e.2).log

/-- What became of a log as an observer. -/
structure Listening where
  /-- How many subscriptions there were, of all logs; they are numbered in their order. -/
  count : Nat
  /-- The numbers of its subscriptions in force. -/
  live : List Nat
  /-- The log as it was subscribed last. -/
  log : Option LinkLog
  /-- The events it was given since, with their times: once for each subscription in force. -/
  heard : List (Nat × LinkEvent)

namespace Listening

def none : Listening := ⟨0, [], .none, []⟩

def take (name : String) (l : Listening) : Change → Listening
  | .cleared => l
  | .subscribed n log =>
    if n = name then ⟨l.count + 1, l.live ++ [l.count], some log, []⟩
    else { l with count := l.count + 1 }
  | .unsubscribed id => { l with live := l.live.filter (· != id) }
  | .dismissed => { l with live := [] }
  | .metric _ => l
  | .link now e =>
    { l with heard := l.heard ++ List.replicate l.live.length (now * 1000000, e) }

def after (name : String) (hs : List Change) : Listening := hs.foldl (take name) none

/-- The log as the events have made it. -/
def result (l : Listening) : Option LinkLog := l.log.map fun log => l.heard.foldl LinkLog.take log

end Listening

/-- The part of a channel that messages go to. -/
structure Holdings where
  store : Store
  observers : Observers
  logs : Logs

def Channel.holdings (c : Channel) : Holdings := ⟨c.store, c.observers, c.logs⟩

namespace Holdings

def take (a : Holdings) : Change → Holdings
  | .cleared => { a with store := a.store.clear }
  | .subscribed name log =>
    { a with observers := (a.observers.subscribe name).1, logs := Table.put name log a.logs }
  | .unsubscribed id => { a with observers := (a.observers.unsubscribe id).1 }
  | .dismissed => { a with observers := a.observers.clear }
  | .metric m => { a with store := a.store.take m }
  | .link now e => { a with logs := (a.observers.dispatch (now * 1000000) e a.logs).1 }

/-- What comes of a change, if there is one. -/
def takeAny (a : Holdings) (h : Option Change) : Holdings := h.elim a a.take

@[simp] lemma takeAny_none (a : Holdings) : a.takeAny none = a := rfl

end Holdings

namespace System

/-- The change that an input makes. -/
def change? (s : System) : Input → Option Change
  | .clearStore => some .cleared
  | .subscribe name log => some (.subscribed name log)
  | .unsubscribe id => some (.unsubscribed id)
  | .shutdown => if s.channel.shutDown then none else some .dismissed
  | .tidy => if s.tearing then some .dismissed else none
  | .frame r f =>
    match s.readers[r]? with
    | none => none
    | some g => if s.channel.isCurrent g then f.text?.bind (Change.ofText? s.clock) else none
  | _ => none

/-- The changes of a run, in their order. -/
def changes (s : System) : List Input → List Change
  | [] => []
  | i :: is => (s.change? i).toList ++ (s.step i).changes is

end System

namespace Channel

@[simp] lemma holdings_route (clock : Clock) (raw : String) (c : Channel) :
    (c.route clock raw).holdings = c.holdings.takeAny (Change.ofText? clock raw) := by
  unfold route Change.ofText?
  dsimp only
  cases Message.parse clock.text raw with
  | error e => rfl
  | ok m => cases m <;> rfl

/-- A frame from a current reader does what its text does, and without text nothing. -/
lemma holdings_deliver (clock : Clock) (g : Nat) (f : Frame) (c : Channel) :
    (c.deliver clock g f).1.holdings =
      c.holdings.takeAny
        (if c.isCurrent g then f.text?.bind (Change.ofText? clock) else none) := by
  cases f with
  | idle => simp [deliver, Frame.text?, Holdings.takeAny]
  | text raw =>
    simp only [deliver, Frame.text?]
    split
    · simp
    · rfl
  | binary octets =>
    simp only [deliver, Frame.text?]
    split
    · cases Text.Utf8.decode? octets with
      | none => rfl
      | some raw => simp
    · rfl

@[simp] lemma holdings_proceed (now : Nat) (t : Target) (p : Phase) (c : Channel) :
    (c.proceed now t p).1.holdings = c.holdings := by
  by_cases h : ∀ u, p = .prepared u → c.shutDown = true
  · obtain ⟨a, e, he⟩ := proceed_of_not_begins now t h
    rw [he]
    rfl
  · push Not at h
    obtain ⟨u, rfl, -⟩ := h
    simp only [proceed, start]
    split_ifs <;> rfl

@[simp] lemma holdings_settle (g : Nat) (o : Outcome) (c : Channel) :
    (c.settle g o).1.holdings = c.holdings := by
  cases o with
  | opened =>
    simp only [settle]
    split_ifs <;> rfl
  | failed f => rfl

@[simp] lemma holdings_abandon (g : Nat) (c : Channel) :
    (c.abandon g).1.holdings = c.holdings := by
  simp only [abandon]
  split_ifs <;> rfl

@[simp] lemma holdings_finish (now g : Nat) (e : Ending) (c : Channel) :
    (c.finish now g e).holdings = c.holdings := by
  simp only [finish, schedule]
  split_ifs
  · split <;> rfl
  · rfl
  · rfl

@[simp] lemma holdings_wake (t : Timer) (c : Channel) : (c.wake t).1.holdings = c.holdings := by
  unfold wake
  split_ifs <;> rfl

@[simp] lemma holdings_shut (c : Channel) : c.shut.holdings = c.holdings := by
  unfold shut
  split_ifs <;> rfl

lemma holdings_tidy (c : Channel) : c.tidy.holdings = c.holdings.take .dismissed := rfl

end Channel

namespace System

variable (s : System)

lemma holdings_conclude (n : Nat) (o : Outcome) :
    (s.conclude n o).channel.holdings = s.channel.holdings := by
  unfold conclude
  split <;> simp [setPhase]

/-- A step does nothing to the store and the logs but its change. -/
lemma holdings_step (i : Input) :
    (s.step i).channel.holdings =
      s.channel.holdings.takeAny (s.change? i) := by
  cases i with
  | proceed n =>
    simp only [step, change?, System.proceed]
    split <;> simp [setPhase]
  | outcome n o => exact s.holdings_conclude n o
  | expire n =>
    simp only [step, change?, System.expire]
    split
    · split_ifs
      · exact s.holdings_conclude n _
      · rfl
    · rfl
  | abandon n =>
    simp only [step, change?, System.abandon]
    split <;> simp [setPhase]
  | shutdown =>
    simp only [step, change?, Channel.shutdown]
    split_ifs
    · rfl
    · rw [Channel.holdings_tidy, Channel.holdings_shut]
      rfl
  | shut => exact s.channel.holdings_shut
  | tidy =>
    simp only [step, change?, System.tidy]
    split_ifs <;> rfl
  | frame r f =>
    simp only [step, change?, System.frame]
    cases s.readers[r]? with
    | none => rfl
    | some g =>
      exact Channel.holdings_deliver s.clock g f s.channel
  | ending r e =>
    simp only [step, change?, System.ending]
    split <;> simp
  | stop r =>
    simp only [step, change?, System.stop]
    split
    · rfl
    · split_ifs <;> rfl
  | wake n =>
    simp only [step, change?, System.wake]
    split
    · rfl
    · next t _ =>
      have hw := s.channel.holdings_wake t
      split <;> exact hw
  | connect | disconnect | pass | credential | clearStore | subscribe | unsubscribe => rfl

lemma holdings_run (inputs : List Input) :
    (s.run inputs).channel.holdings = (s.changes inputs).foldl .take s.channel.holdings := by
  induction inputs generalizing s with
  | nil => rfl
  | cons i is ih =>
    have hi := s.holdings_step i
    rw [run, List.foldl_cons, changes, List.foldl_append, ← run, ih, hi]
    cases s.change? i <;> rfl

end System

namespace Store

@[simp] lemma capacity_take (s : Store) (m : MetricMessage) :
    (s.take m).capacity = s.capacity := by
  simp [take]

lemma clear_foldl_take (n : Nat) (ms : List MetricMessage) :
    (ms.foldl take (new n)).clear = new n := by
  have hc : ∀ s : Store, (ms.foldl take s).capacity = s.capacity := by
    induction ms with
    | nil => exact fun _ => rfl
    | cons m ms ih => exact fun s => (ih (s.take m)).trans (s.capacity_take m)
  simp [clear, hc, new]

end Store

namespace Change

lemma metrics_push (hs : List Change) (h : Change) :
    metrics (hs ++ [h]) = if h.isClear then [] else metrics hs ++ h.metric?.toList := by
  cases hc : h.isClear with
  | true => simp [metrics, hc]
  | false => cases hm : h.metric? <;> simp [metrics, hc, hm]

end Change

namespace Holdings

/-- Only metric messages and clearing touch the store. -/
lemma store_take (a : Holdings) (h : Change) :
    (a.take h).store =
      if h.isClear then a.store.clear else h.metric?.toList.foldl Store.take a.store := by
  cases h <;> rfl

lemma store_foldl_take {a : Holdings} {n : Nat} (h : a.store = .new n) (hs : List Change) :
    (hs.foldl take a).store = (Change.metrics hs).foldl Store.take (.new n) := by
  induction hs using List.reverseRecOn with
  | nil => exact h
  | append_singleton hs x ih =>
    rw [List.foldl_append, List.foldl_cons, List.foldl_nil, store_take, ih, Change.metrics_push]
    split_ifs
    · exact Store.clear_foldl_take n _
    · rw [List.foldl_append]

end Holdings

namespace Observers

/-- A log hears every event once through each of its subscriptions. -/
lemma lookup_dispatch (name : String) (now : Nat) (e : LinkEvent) (logs : Logs) (o : Observers) :
    Table.lookup name (o.dispatch now e logs).1 = (Table.lookup name logs).map fun l =>
      (List.replicate (o.subscriptions.filter (·.2 == name)).length (now, e)).foldl
        LinkLog.take l := by
  have htake : ∀ (l : LinkLog) (es : List (Nat × LinkEvent)),
      l.performAll (es.map fun x => .ingest x.1 x.2) = es.foldl LinkLog.take l := fun l es =>
    List.foldl_map
  rw [← dispatchIn_inOrder, lookup_dispatchIn, (Round.isAt_inOrder now).times_eq,
    List.countP_eq_length_filter]
  simp only [← htake, List.map_replicate]

end Observers

namespace Listening

/-- What is known of a log agrees with the logs and observers of a channel. -/
structure Agrees (name : String) (l : Listening) (a : Holdings) : Prop where
  count : a.observers.next = l.count
  live : (a.observers.subscriptions.filter (·.2 == name)).map Prod.fst = l.live
  log : Table.lookup name a.logs = l.result

variable {name : String} {l : Listening} {a : Holdings}

lemma Agrees.take (h : Agrees name l a) (x : Change) :
    Agrees name (l.take name x) (a.take x) := by
  obtain ⟨hcount, hlive, hlog⟩ := h
  cases x with
  | cleared => exact ⟨hcount, hlive, hlog⟩
  | subscribed n log =>
    by_cases hn : n = name
    · subst hn
      refine ⟨?_, ?_, ?_⟩
      · simp [Holdings.take, Listening.take, Observers.subscribe, hcount]
      · simp [Holdings.take, Listening.take, Observers.subscribe, hlive, hcount]
      · simp [Holdings.take, Listening.take, result, Table.lookup_put_self]
    · refine ⟨?_, ?_, ?_⟩
      · simp [Holdings.take, Listening.take, Observers.subscribe, hn, hcount]
      · simp [Holdings.take, Listening.take, Observers.subscribe, hn, hlive]
      · simpa [Holdings.take, Listening.take, result, hn, Table.lookup_put_of_ne (Ne.symm hn)]
          using hlog
  | unsubscribed id =>
    refine ⟨hcount, ?_, hlog⟩
    simp only [Holdings.take, Observers.unsubscribe, Listening.take, ← hlive, List.filter_map,
      List.filter_filter]
    congr 2
    funext s
    exact Bool.and_comm _ _
  | dismissed => exact ⟨hcount, rfl, hlog⟩
  | metric m => exact ⟨hcount, hlive, hlog⟩
  | link now e =>
    refine ⟨hcount, hlive, ?_⟩
    have hlen : (a.observers.subscriptions.filter (·.2 == name)).length = l.live.length := by
      rw [← hlive, List.length_map]
    simp only [Holdings.take, Observers.lookup_dispatch, hlog, hlen]
    simp [Listening.take, result, Function.comp_def]

lemma Agrees.foldl_take (h : Agrees name l a) (hs : List Change) :
    Agrees name (hs.foldl (Listening.take name) l) (hs.foldl Holdings.take a) := by
  induction hs generalizing l a with
  | nil => exact h
  | cons x hs ih => exact ih (h.take x)

end Listening

namespace System

/-- What a frame leaves as it was, from one state to the next. -/
structure Separates (f : Frame) (s t : System) : Prop where
  ofLink : ∀ raw e, f.Holds raw → Message.parse s.clock.text raw = .ok (.link e) →
    t.channel.store = s.channel.store
  ofMetric : ∀ raw m, f.Holds raw → Message.parse s.clock.text raw = .ok (.metric m) →
    t.channel.logs = s.channel.logs
  ofOther : (∀ raw m, f.Holds raw → Message.parse s.clock.text raw ≠ .ok m) →
    t.channel.store = s.channel.store ∧ t.channel.logs = s.channel.logs
  observers : t.channel.observers = s.channel.observers
  control : t.channel.control = s.channel.control

/-- A frame does nothing to the store and the observers, or what its message is for. -/
lemma holdings_frame (s : System) (r : Nat) (f : Frame) :
    (s.step (.frame r f)).channel.holdings = s.channel.holdings ∨
    (∃ raw m, f.Holds raw ∧ Message.parse s.clock.text raw = .ok (.metric m) ∧
      (s.step (.frame r f)).channel.holdings = s.channel.holdings.take (.metric m)) ∨
    ∃ raw e, f.Holds raw ∧ Message.parse s.clock.text raw = .ok (.link e) ∧
      (s.step (.frame r f)).channel.holdings = s.channel.holdings.take (.link s.clock.now e) := by
  rw [holdings_step]
  cases hh : s.change? (.frame r f) with
  | none => exact .inl rfl
  | some h =>
    unfold change? at hh
    dsimp only at hh
    split at hh
    · cases hh
    · split_ifs at hh
      obtain ⟨raw, hraw, ho⟩ := Option.bind_eq_some_iff.1 hh
      unfold Change.ofText? at ho
      split at ho
      · next m hm =>
        cases ho
        exact .inr (.inl ⟨raw, m, Frame.text?_eq_some_iff.1 hraw, hm, rfl⟩)
      · next e he =>
        cases ho
        exact .inr (.inr ⟨raw, e, Frame.text?_eq_some_iff.1 hraw, he, rfl⟩)
      · cases ho

lemma separates_frame (s : System) (r : Nat) (f : Frame) :
    Separates f s (s.step (.frame r f)) := by
  have hone : ∀ {raw raw' : String}, f.Holds raw → f.Holds raw' → raw = raw' := fun h h' =>
    Option.some.inj ((Frame.text?_eq_some_iff.2 h).symm.trans (Frame.text?_eq_some_iff.2 h'))
  have hcontrol : (s.step (.frame r f)).channel.control = s.channel.control := by
    simp only [step, System.frame]
    split
    · rfl
    · exact Channel.control_deliver _ _ _ _
  have hs : ∀ {a : Holdings}, (s.step (.frame r f)).channel.holdings = a →
      (s.step (.frame r f)).channel.store = a.store ∧
      (s.step (.frame r f)).channel.observers = a.observers ∧
      (s.step (.frame r f)).channel.logs = a.logs := fun h => h ▸ ⟨rfl, rfl, rfl⟩
  rcases s.holdings_frame r f with h | ⟨raw, m, hraw, hm, h⟩ | ⟨raw, e, hraw, he, h⟩
  · obtain ⟨hstore, hobservers, hlogs⟩ := hs h
    exact ⟨fun _ _ _ _ => hstore, fun _ _ _ _ => hlogs, fun _ => ⟨hstore, hlogs⟩, hobservers,
      hcontrol⟩
  · obtain ⟨-, hobservers, hlogs⟩ := hs h
    refine ⟨fun raw' e hraw' he => ?_, fun _ _ _ _ => hlogs, fun hn => ?_, hobservers, hcontrol⟩
    · rw [hone hraw' hraw, hm] at he
      cases he
    · exact absurd hm (hn raw _ hraw)
  · obtain ⟨hstore, hobservers, -⟩ := hs h
    refine ⟨fun _ _ _ _ => hstore, fun raw' m hraw' hm => ?_, fun hn => ?_, hobservers, hcontrol⟩
    · rw [hone hraw' hraw, he] at hm
      cases hm
    · exact absurd he (hn raw _ hraw)

/-- The store holds what comes of the metric messages that current readers brought since it was last
cleared, and every log what comes of the link events that they brought while it was subscribed. A
frame changes nothing but what its message is for, and octets that hold a text do what it does. -/
theorem routing_run (settings : ChannelSettings) (n : Nat) (credentials : CredentialSlot)
    (clock : Channel.Clock) (inputs : List Input) :
    let s := new (.new settings n credentials) clock
    let t := s.run inputs
    t.channel.store = (Change.metrics (s.changes inputs)).foldl Store.take (.new n) ∧
    (∀ name, Table.lookup name t.channel.logs =
      (Listening.after name (s.changes inputs)).result) ∧
    (∀ r f, Separates f t (t.step (.frame r f))) ∧
    ∀ r raw, t.step (.frame r (.binary (Text.Utf8.encode raw))) = t.step (.frame r (.text raw)) := by
  intro s t
  have hrun : t.channel.holdings = (s.changes inputs).foldl Holdings.take s.channel.holdings :=
    s.holdings_run inputs
  refine ⟨?_, fun name => ?_, t.separates_frame, fun r raw => ?_⟩
  · exact (congrArg Holdings.store hrun).trans (Holdings.store_foldl_take rfl _)
  · have h : Listening.Agrees name .none s.channel.holdings := ⟨rfl, rfl, rfl⟩
    exact (congrArg (Table.lookup name) (congrArg Holdings.logs hrun)).trans (h.foldl_take _).log
  · simp only [step, System.frame]
    split
    · rfl
    · rw [Channel.deliver_binary (Text.Utf8.decode?_encode raw)]

/-- A log hears what comes between its subscription and the end of it. -/
example (log : LinkLog) (e e' : LinkEvent) :
    (Listening.after "a" [.subscribed "b" log, .link 1 e', .subscribed "a" log, .link 2 e,
      .unsubscribed 1, .link 3 e']).result = some (log.take (2000000, e)) := rfl

end System
end LiveTelemetry
