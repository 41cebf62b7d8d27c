import LiveTelemetry.Link.Observers
import LiveTelemetry.Proofs.Link.Buffer

/-!
How link events reach the logs that observe. Main statement: after any operations a log is what was
made of it by the events that were dispatched, each of them once through every subscription of the
log in force at that time. In which order a dispatch visits the subscriptions does not count, nor
does what becomes of other logs.
-/
namespace LiveTelemetry

namespace Observers

/-- A visit to a subscription, at a reading of the clock. -/
structure Visit where
  now : Nat
  subscription : Nat × String

/-- How a dispatch goes through the subscriptions: each is visited once, in any order and at any
reading of the clock. -/
structure Round where
  visits : List (Nat × String) → List Visit
  perm : ∀ subscriptions, ((visits subscriptions).map Visit.subscription).Perm subscriptions

namespace Round

/-- The round in the order of the subscriptions, within one reading of the clock. -/
def inOrder (now : Nat) : Round where
  visits subscriptions := subscriptions.map (Visit.mk now)
  perm subscriptions := by rw [List.map_map]; exact .of_eq (List.map_id _)

/-- The readings of the clock at which a log is visited. -/
def times (r : Round) (log : String) (subscriptions : List (Nat × String)) : List Nat :=
  ((r.visits subscriptions).filter fun v => v.subscription.2 == log).map Visit.now

/-- The clock stands still during a round. -/
def IsAt (r : Round) (now : Nat) : Prop :=
  ∀ subscriptions, ∀ v ∈ r.visits subscriptions, v.now = now

/-- A round visits a log once for each of its subscriptions. -/
lemma length_times (r : Round) (log : String) (subscriptions : List (Nat × String)) :
    (r.times log subscriptions).length = subscriptions.countP fun s => s.2 == log := by
  rw [times, List.length_map, ← List.countP_eq_length_filter, ← (r.perm subscriptions).countP_eq,
    List.countP_map]
  rfl

lemma isAt_inOrder (now : Nat) : (inOrder now).IsAt now := by
  intro subscriptions v hv
  obtain ⟨s, -, rfl⟩ := List.mem_map.1 hv
  rfl

lemma IsAt.times_eq {r : Round} {now : Nat} (h : r.IsAt now) (log : String)
    (subscriptions : List (Nat × String)) :
    r.times log subscriptions =
      List.replicate (subscriptions.countP fun s => s.2 == log) now := by
  rw [← r.length_times]
  refine List.eq_replicate_of_mem fun t ht => ?_
  obtain ⟨v, hv, rfl⟩ := List.mem_map.1 ht
  exact h _ v (List.mem_filter.1 hv).1

end Round

/-- Gives an event to every subscription in a round, and says how many there were. -/
def dispatchIn (r : Round) (e : LinkEvent) (logs : Logs) (o : Observers) :
    Logs × List Told × Nat :=
  let visits := r.visits o.subscriptions
  let (logs, told) :=
    visits.foldl (fun state v => deliver v.now e v.subscription.2 state) (logs, [])
  (logs, told, visits.length)

/-- The order in which subscriptions were made is that of one round. -/
lemma dispatchIn_inOrder (now : Nat) (e : LinkEvent) (logs : Logs) (o : Observers) :
    o.dispatchIn (.inOrder now) e logs = o.dispatch now e logs := by
  simp [dispatchIn, dispatch, Round.inOrder, List.foldl_map, count]

lemma lookup_deliver (name other : String) (now : Nat) (e : LinkEvent) (state : Logs × List Told) :
    Table.lookup name (deliver now e other state).1 =
      (Table.lookup name state.1).map fun l =>
        if other = name then (l.ingest now e).log else l := by
  unfold deliver
  split_ifs with h
  · subst h
    cases hl : Table.lookup other state.1 with
    | none => exact hl
    | some l => exact Table.lookup_put_self _ _ _
  · rw [Option.map_id']
    cases Table.lookup other state.1 with
    | none => rfl
    | some l => exact Table.lookup_put_of_ne (Ne.symm h) _ _

/-- A log takes in an event at each visit to one of its subscriptions, and at no other. -/
lemma lookup_dispatchIn (name : String) (r : Round) (e : LinkEvent) (logs : Logs)
    (o : Observers) :
    Table.lookup name (o.dispatchIn r e logs).1 = (Table.lookup name logs).map fun l =>
      l.performAll ((r.times name o.subscriptions).map (.ingest · e)) := by
  suffices ∀ (visits : List Visit) (state : Logs × List Told),
      Table.lookup name
          (visits.foldl (fun state v => deliver v.now e v.subscription.2 state) state).1 =
        (Table.lookup name state.1).map fun l => l.performAll
          (((visits.filter fun v => v.subscription.2 == name).map Visit.now).map (.ingest · e))
    from this _ (logs, [])
  intro visits
  induction visits with
  | nil => simp [LinkLog.performAll]
  | cons v visits ih =>
    intro state
    rw [List.foldl_cons, ih, lookup_deliver, Option.map_map]
    congr 1
    funext l
    by_cases h : v.subscription.2 = name <;> simp [h, LinkLog.performAll, LinkLog.perform]

end Observers

namespace LinkLog

/-- A log without the one whom it notifies. -/
def muted (l : LinkLog) : LinkLog := { l with notifier := none }

namespace Operation

/-- An operation apart from the reading of the clock. -/
def timeless : Operation → Operation
  | ingest _ e => ingest 0 e
  | op => op

end Operation

/-- Whom a log notifies, and when, makes no difference to the rest of it. -/
lemma muted_perform (l : LinkLog) (op : Operation) :
    (l.perform op).muted = l.muted.perform op.timeless := by
  cases op with
  | ingest now e =>
    have hfilter : l.muted.filter = l.filter := rfl
    by_cases h : passes l.filter e = true
    · simp [perform, Operation.timeless, ingest, muted, h]
    · simp [perform, Operation.timeless, ingest, muted, h]
  | _ => rfl

lemma muted_performAll (l : LinkLog) (ops : List Operation) :
    (l.performAll ops).muted = l.muted.performAll (ops.map .timeless) := by
  induction ops generalizing l with
  | nil => rfl
  | cons op ops ih => exact (ih _).trans (congrArg (performAll · _) (l.muted_perform op))

lemma performAll_append (l : LinkLog) (ops ops' : List Operation) :
    l.performAll (ops ++ ops') = (l.performAll ops).performAll ops' :=
  List.foldl_append

end LinkLog

/-- Logs, and those of them that observe. -/
structure Audience where
  observers : Observers
  logs : Logs

namespace Audience

/-- Logs that nobody has subscribed yet. -/
def new (logs : Logs) : Audience := ⟨.empty, logs⟩

/-- What can be done with logs and observers. -/
inductive Operation where
  | subscribe (log : String)
  | unsubscribe (id : Nat)
  | clear
  | dispatch (r : Observers.Round) (e : LinkEvent)
  /-- Something is done with a log itself. -/
  | direct (log : String) (op : LinkLog.Operation)

namespace Operation

def isSubscribe : Operation → Bool
  | subscribe _ => true
  | _ => false

/-- What an operation makes of the observers. -/
def enroll (o : Observers) : Operation → Observers
  | subscribe log => (o.subscribe log).1
  | unsubscribe id => (o.unsubscribe id).1
  | clear => o.clear
  | dispatch _ _ => o
  | direct _ _ => o

/-- What an operation makes of the logs. -/
def tell (a : Audience) : Operation → Logs
  | dispatch r e => (a.observers.dispatchIn r e a.logs).1
  | direct log op =>
    match Table.lookup log a.logs with
    | none => a.logs
    | some l => Table.put log (l.perform op) a.logs
  | _ => a.logs

/-- What is done with a log in an operation, while some subscriptions are in force. -/
def given (name : String) (subscriptions : List (Nat × String)) :
    Operation → List LinkLog.Operation
  | dispatch r e => (r.times name subscriptions).map (.ingest · e)
  | direct log op => if log = name then [op] else []
  | _ => []

/-- An operation is not just about some other log. -/
def concerns (name : String) : Operation → Bool
  | direct log _ => log == name
  | _ => true

/-- Two operations differ at most in the round that a dispatch makes. -/
inductive Alike : Operation → Operation → Prop
  | same (op : Operation) : Alike op op
  | rounds (r r' : Observers.Round) (e : LinkEvent) : Alike (dispatch r e) (dispatch r' e)

end Operation

def perform (a : Audience) (op : Operation) : Audience := ⟨op.enroll a.observers, op.tell a⟩

def performAll (a : Audience) (ops : List Operation) : Audience := ops.foldl perform a

/-- The observers after some operations. -/
def enrolled (ops : List Operation) : Observers := ops.foldl Operation.enroll .empty

/-- The subscriptions in force after some operations: their numbers, with the logs. -/
def live (ops : List Operation) : List (Nat × String) := (enrolled ops).subscriptions

/-- A subscription is in force: it was made, and since then it was not ended and the observers were
not dismissed. Subscriptions are numbered in their order. -/
def IsLive (ops : List Operation) (id : Nat) (log : String) : Prop :=
  ∃ before after, ops = before ++ .subscribe log :: after ∧
    id = before.countP Operation.isSubscribe ∧ ∀ op ∈ after, op ≠ .unsubscribe id ∧ op ≠ .clear

/-- What is done with a log in some operations that come behind others. -/
def heard (name : String) (before : List Operation) : List Operation → List LinkLog.Operation
  | [] => []
  | op :: ops => op.given name (live before) ++ heard name (before ++ [op]) ops

/-! ### Subscriptions in force -/

lemma enrolled_push (ops : List Operation) (op : Operation) :
    enrolled (ops ++ [op]) = op.enroll (enrolled ops) := by
  simp [enrolled]

lemma next_enrolled (ops : List Operation) :
    (enrolled ops).next = ops.countP Operation.isSubscribe := by
  induction ops using List.reverseRecOn with
  | nil => rfl
  | append_singleton ops op ih =>
    rw [enrolled_push, List.countP_append, ← ih]
    cases op <;> rfl

lemma isLive_push (ops : List Operation) (op : Operation) (id : Nat) (log : String) :
    IsLive (ops ++ [op]) id log ↔
      op = .subscribe log ∧ id = ops.countP Operation.isSubscribe ∨
        IsLive ops id log ∧ op ≠ .unsubscribe id ∧ op ≠ .clear := by
  constructor
  · rintro ⟨before, after, h, hid, hafter⟩
    -- Either the subscription is the last operation, or it was made before that.
    rcases after.eq_nil_or_concat with rfl | ⟨after, last, rfl⟩
    · obtain ⟨rfl, hop⟩ := List.append_inj' h rfl
      exact .inl ⟨List.singleton_inj.1 hop, hid⟩
    · rw [List.concat_eq_append, ← List.cons_append, ← List.append_assoc] at h
      obtain ⟨rfl, hop⟩ := List.append_inj' h rfl
      obtain rfl := List.singleton_inj.1 hop
      rw [List.concat_eq_append] at hafter
      exact .inr ⟨⟨before, after, rfl, hid, fun o ho => hafter o (List.mem_append_left _ ho)⟩,
        hafter op (List.mem_append_right _ List.mem_cons_self)⟩
  · rintro (⟨rfl, hid⟩ | ⟨⟨before, after, rfl, hid, hafter⟩, hop⟩)
    · exact ⟨ops, [], rfl, hid, fun _ ho => absurd ho List.not_mem_nil⟩
    · refine ⟨before, after ++ [op], by simp, hid, fun o ho => ?_⟩
      rcases List.mem_append.1 ho with ho | ho
      · exact hafter o ho
      · exact List.mem_singleton.1 ho ▸ hop

lemma IsLive.lt {ops : List Operation} {id : Nat} {log : String} (h : IsLive ops id log) :
    id < ops.countP Operation.isSubscribe := by
  obtain ⟨before, after, rfl, rfl, -⟩ := h
  have hmade : Operation.isSubscribe (.subscribe log) = true := rfl
  rw [List.countP_append, List.countP_cons_of_pos hmade]
  omega

lemma mem_live_iff (ops : List Operation) (id : Nat) (log : String) :
    (id, log) ∈ live ops ↔ IsLive ops id log := by
  induction ops using List.reverseRecOn with
  | nil =>
    refine ⟨fun h => absurd h List.not_mem_nil, ?_⟩
    rintro ⟨before, after, h, -⟩
    simp at h
  | append_singleton ops op ih =>
    rw [isLive_push, ← ih, ← next_enrolled, live, enrolled_push]
    cases op with
    | subscribe other =>
      simp only [Operation.enroll, Observers.subscribe, List.mem_append, List.mem_singleton,
        Prod.mk.injEq, Operation.subscribe.injEq, eq_comm (a := log)]
      rw [or_comm, and_comm]
      simp [live]
    | unsubscribe other =>
      simp [Operation.enroll, Observers.unsubscribe, live, eq_comm (a := other)]
    | clear => simp [Operation.enroll, Observers.clear]
    | dispatch | direct => simp [Operation.enroll, live]

lemma nodup_live (ops : List Operation) : ((live ops).map Prod.fst).Nodup := by
  induction ops using List.reverseRecOn with
  | nil => exact List.nodup_nil
  | append_singleton ops op ih =>
    rw [live, enrolled_push]
    cases op with
    | subscribe log =>
      have hnew : (enrolled ops).next ∉ (live ops).map Prod.fst := by
        intro h
        obtain ⟨⟨id, other⟩, hs, hid⟩ := List.mem_map.1 h
        have hlt := ((mem_live_iff ops id other).1 hs).lt
        rw [next_enrolled] at hid
        exact Nat.ne_of_lt hlt hid
      have happend : ((enrolled ops).subscribe log).1.subscriptions.map Prod.fst =
          (live ops).map Prod.fst ++ [(enrolled ops).next] := by
        simp [Observers.subscribe, live]
      rw [Operation.enroll, happend]
      exact List.nodup_append.2 ⟨ih, List.nodup_cons.2 ⟨List.not_mem_nil, List.nodup_nil⟩,
        fun a ha b hb he => hnew (List.mem_singleton.1 hb ▸ he ▸ ha)⟩
    | unsubscribe id => exact ih.sublist (List.filter_sublist.map Prod.fst)
    | clear => exact List.nodup_nil
    | dispatch | direct => exact ih

/-! ### What a log hears -/

lemma observers_performAll (logs : Logs) (ops : List Operation) :
    ((new logs).performAll ops).observers = enrolled ops := by
  induction ops using List.reverseRecOn with
  | nil => rfl
  | append_singleton ops op ih =>
    rw [enrolled_push, ← ih, performAll, List.foldl_append]
    rfl

/-- An operation does with a log what it is given in it, and nothing else. -/
lemma lookup_perform (a : Audience) (op : Operation) (name : String) :
    Table.lookup name (a.perform op).logs = (Table.lookup name a.logs).map
      (·.performAll (op.given name a.observers.subscriptions)) := by
  cases op with
  | dispatch r e => exact Observers.lookup_dispatchIn name r e a.logs a.observers
  | direct log op =>
    simp only [perform, Operation.tell, Operation.given]
    by_cases h : log = name
    · subst h
      cases hl : Table.lookup log a.logs with
      | none => simpa using hl
      | some l => simp [Table.lookup_put_self, LinkLog.performAll]
    · cases Table.lookup log a.logs with
      | none => simp [h, LinkLog.performAll]
      | some l => simp [h, Table.lookup_put_of_ne (Ne.symm h), LinkLog.performAll]
  | _ => simp [perform, Operation.tell, Operation.given, LinkLog.performAll]

lemma heard_push (name : String) (before ops : List Operation) (op : Operation) :
    heard name before (ops ++ [op]) =
      heard name before ops ++ op.given name (live (before ++ ops)) := by
  induction ops generalizing before with
  | nil => simp [heard]
  | cons o ops ih => simp [heard, ih]

lemma lookup_performAll (logs : Logs) (ops : List Operation) (name : String) :
    Table.lookup name ((new logs).performAll ops).logs =
      (Table.lookup name logs).map (·.performAll (heard name [] ops)) := by
  induction ops using List.reverseRecOn with
  | nil => simp [performAll, heard, new, LinkLog.performAll]
  | append_singleton ops op ih =>
    have hpush : (new logs).performAll (ops ++ [op]) = ((new logs).performAll ops).perform op := by
      simp [performAll]
    rw [hpush, lookup_perform, ih, observers_performAll, heard_push, Option.map_map]
    simp [Function.comp_def, LinkLog.performAll_append, live]

/-! ### Rounds and other logs -/

variable {op op' : Operation} {before before' ops ops' : List Operation}

lemma Operation.Alike.enroll_eq (h : Alike op op') (o : Observers) :
    op.enroll o = op'.enroll o := by
  cases h <;> rfl

lemma Operation.Alike.given_eq (h : Alike op op') (name : String)
    (subscriptions : List (Nat × String)) :
    (op.given name subscriptions).map .timeless =
      (op'.given name subscriptions).map LinkLog.Operation.timeless := by
  cases h with
  | same => rfl
  | rounds r r' e =>
    have hconst : ∀ r : Observers.Round, ((Operation.dispatch r e).given name subscriptions).map
        LinkLog.Operation.timeless =
        List.replicate (subscriptions.countP fun s => s.2 == name) (.ingest 0 e) := by
      intro r
      rw [given, List.map_map, ← r.length_times, ← List.map_const']
      rfl
    rw [hconst, hconst]

/-- Apart from the time a log hears the same, whatever rounds are made. -/
lemma heard_of_alike (h : List.Forall₂ Operation.Alike ops ops')
    (hbefore : enrolled before = enrolled before') (name : String) :
    (heard name before ops).map .timeless =
      (heard name before' ops').map LinkLog.Operation.timeless := by
  induction h generalizing before before' with
  | nil => rfl
  | @cons op op' _ _ h _ ih =>
    have hnext : enrolled (before ++ [op]) = enrolled (before' ++ [op']) := by
      rw [enrolled_push, enrolled_push, hbefore, h.enroll_eq]
    rw [heard, heard, List.map_append, List.map_append, ih hnext, live, hbefore, h.given_eq]
    rfl

lemma given_of_not_concerns {name : String} (h : op.concerns name = false)
    (subscriptions : List (Nat × String)) (o : Observers) :
    op.given name subscriptions = [] ∧ op.enroll o = o := by
  cases op with
  | direct log _ => exact ⟨if_neg (by simpa [Operation.concerns] using h), rfl⟩
  | _ => cases h

/-- What is done with other logs is not heard. -/
lemma heard_filter (name : String) (hbefore : enrolled before = enrolled before') :
    heard name before (ops.filter (·.concerns name)) = heard name before' ops := by
  induction ops generalizing before before' with
  | nil => rfl
  | cons op ops ih =>
    cases hc : op.concerns name with
    | true =>
      rw [List.filter_cons_of_pos hc, heard, heard, live, hbefore, ih]
      · rfl
      · rw [enrolled_push, enrolled_push, hbefore]
    | false =>
      obtain ⟨hnone, hsame⟩ := given_of_not_concerns hc (live before') (enrolled before')
      rw [List.filter_cons_of_neg (by rw [hc]; exact Bool.false_ne_true), heard, hnone,
        List.nil_append]
      apply ih
      rw [enrolled_push, hsame, hbefore]

/-- What becomes of a log in some operations, if it was one of `logs` before. -/
structure Hears (logs : Logs) (ops : List Operation) (name : String) : Prop where
  log : Table.lookup name ((new logs).performAll ops).logs =
    (Table.lookup name logs).map (·.performAll (heard name [] ops))
  /-- A further event would come once through each subscription. -/
  once : ∀ r : Observers.Round,
    (r.times name (live ops)).length = (live ops).countP fun s => s.2 == name
  /-- While the clock stands still, the order of a round makes no difference at all. -/
  still : ∀ (r : Observers.Round) now, r.IsAt now →
    r.times name (live ops) = List.replicate ((live ops).countP fun s => s.2 == name) now
  /-- Otherwise it makes none but to the one whom the log notifies. -/
  anyRound : ∀ ops', List.Forall₂ Operation.Alike ops ops' →
    (Table.lookup name ((new logs).performAll ops').logs).map .muted =
      (Table.lookup name ((new logs).performAll ops).logs).map LinkLog.muted
  /-- Other logs, and what is done with them, make no difference. -/
  apart : ∀ logs', Table.lookup name logs' = Table.lookup name logs →
    Table.lookup name ((new logs').performAll (ops.filter (·.concerns name))).logs =
      Table.lookup name ((new logs).performAll ops).logs

/-- Every log is what the events have made of it that were dispatched, each once through every
subscription of the log in force at that time, whatever rounds are made. A dispatch counts the
subscriptions in force, and ending one succeeds exactly if it is in force, and ends no other. -/
theorem fanout_run (logs : Logs) (ops : List Operation) :
    let a := (new logs).performAll ops
    (∀ name, Hears logs ops name) ∧
    (∀ id log, (id, log) ∈ live ops ↔ IsLive ops id log) ∧
    ((live ops).map Prod.fst).Nodup ∧
    (∀ now e, a.observers.dispatch now e a.logs =
      a.observers.dispatchIn (.inOrder now) e a.logs) ∧
    (∀ r e, (a.observers.dispatchIn r e a.logs).2.2 = (live ops).length) ∧
    ∀ id, ((a.observers.unsubscribe id).2 = true ↔ ∃ log, IsLive ops id log) ∧
      live (ops ++ [.unsubscribe id]) = (live ops).filter fun s => s.1 != id := by
  intro a
  have hobservers : a.observers = enrolled ops := observers_performAll logs ops
  refine ⟨fun name => ?_, mem_live_iff ops, nodup_live ops,
    fun now e => (Observers.dispatchIn_inOrder now e _ _).symm, fun r e => ?_, fun id => ⟨?_, ?_⟩⟩
  · refine ⟨lookup_performAll logs ops name, fun r => r.length_times name _,
      fun r now h => h.times_eq name _, fun ops' h => ?_, fun logs' h => ?_⟩
    · rw [lookup_performAll, lookup_performAll, Option.map_map, Option.map_map]
      simp only [Function.comp_def, LinkLog.muted_performAll, heard_of_alike h rfl name]
    · rw [lookup_performAll, lookup_performAll, heard_filter name rfl, h]
  · rw [hobservers]
    exact (List.length_map _).symm.trans (r.perm _).length_eq
  · simp only [← mem_live_iff, hobservers, Observers.unsubscribe, List.any_eq_true, beq_iff_eq]
    exact ⟨fun ⟨s, hs, hid⟩ => ⟨s.2, hid ▸ hs⟩, fun ⟨log, hs⟩ => ⟨_, hs, rfl⟩⟩
  · rw [live, enrolled_push]
    rfl

/-- A log that was subscribed twice stays subscribed when one of the subscriptions is ended. -/
example : live [.subscribe "a", .subscribe "b", .subscribe "a", .unsubscribe 0] =
    [(1, "b"), (2, "a")] := rfl

end Audience
end LiveTelemetry
