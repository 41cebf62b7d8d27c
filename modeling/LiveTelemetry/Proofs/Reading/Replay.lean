import LiveTelemetry.Proofs.Message.Definite
import LiveTelemetry.Proofs.Reading.Accessors
import Mathlib.Data.List.Nodup

/-!
Backlogs that come twice. Main statement: samples of different readings leave the same store behind
whether they come once or twice in a row, and however many they are, if there is no NaN among them.
-/
namespace LiveTelemetry.Store

/-! ### Samples of one metric -/

variable {n : Nat} {xs ys zs : List Sample}

lemma accepted_append (n : Nat) (xs ys : List Sample) :
    accepted n (xs ++ ys) = ys.foldl (accept n) (accepted n xs) :=
  List.foldl_append

/-- Samples all count if none repeats one of the newest before it. -/
lemma foldl_accept_of_new
    (h : ∀ as y bs, ys = as ++ y :: bs → ∀ z ∈ newest n (zs ++ as), z.sameReading y = false) :
    ys.foldl (accept n) zs = zs ++ ys := by
  induction ys using List.reverseRecOn with
  | nil => simp
  | append_singleton ys y ih =>
    have hys : ys.foldl (accept n) zs = zs ++ ys := by
      apply ih
      rintro as x bs rfl
      exact h as x (bs ++ [y]) (by simp)
    have hnew : (newest n (zs ++ ys)).any (·.sameReading y) = false := by
      rw [List.any_eq_false]
      intro z hz
      exact Bool.eq_false_iff.1 (h ys y [] rfl z hz)
    rw [List.foldl_append, hys, List.foldl_cons, List.foldl_nil, accept, hnew,
      if_neg Bool.false_ne_true, List.append_assoc]

/-- Samples change nothing if each repeats one of the newest. -/
lemma foldl_accept_of_repeated
    (h : ∀ y ∈ ys, ∃ z ∈ newest n zs, z.sameReading y = true) : ys.foldl (accept n) zs = zs := by
  induction ys with
  | nil => rfl
  | cons y ys ih =>
    obtain ⟨hy, hys⟩ := List.forall_mem_cons.1 h
    rw [List.foldl_cons, accept, List.any_eq_true.2 hy, if_pos rfl]
    exact ih hys

lemma accepted_of_pairwise (h : xs.Pairwise Differ) : accepted n xs = xs := by
  refine (foldl_accept_of_new fun as y bs hxs z hz => ?_).trans (List.nil_append xs)
  subst hxs
  exact ((List.pairwise_append.1 h).2.2 z ((newest_sublist n as).subset hz) y List.mem_cons_self).1

/-- Samples that are more than the store holds all count again: at the time at which one comes again
all that is left of the first time came behind it. -/
lemma accepted_twice_of_lt (h : xs.Pairwise Differ) (hn : n < xs.length) :
    accepted n (xs ++ xs) = xs ++ xs := by
  rw [accepted_append, accepted_of_pairwise h]
  refine foldl_accept_of_new fun as y bs hxs z hz => ?_
  subst hxs
  obtain ⟨-, hy, hasy⟩ := List.pairwise_append.1 h
  have hleft : (newest n ((as ++ y :: bs) ++ as)).Sublist (bs ++ as) := by
    have hdrop : ((as ++ y :: bs) ++ as).drop (as.length + 1) = bs ++ as := by simp
    rw [← hdrop]
    apply List.drop_sublist_drop_left
    simp only [List.length_append, List.length_cons] at hn ⊢
    omega
  rcases List.mem_append.1 (hleft.subset hz) with hz | hz
  · exact ((List.pairwise_cons.1 hy).1 z hz).2
  · exact (hasy z hz y List.mem_cons_self).1

/-- Samples that the store can hold count once. -/
lemma accepted_twice_of_le (h : xs.Pairwise Differ) (hself : ∀ x ∈ xs, x.sameReading x = true)
    (hn : xs.length ≤ n) : accepted n (xs ++ xs) = xs := by
  have hall : newest n xs = xs := by
    rw [newest, Nat.sub_eq_zero_of_le hn, List.drop_zero]
  rw [accepted_append, accepted_of_pairwise h]
  exact foldl_accept_of_repeated fun x hx => ⟨x, hall.symm ▸ hx, hself x hx⟩

lemma newest_append_of_le {α : Type} {xs : List α} (hn : n ≤ xs.length) (ys : List α) :
    newest n (ys ++ xs) = newest n xs := by
  rw [newest_eq_reverse, newest_eq_reverse, List.reverse_append,
    List.take_append_of_le_length (by rwa [List.length_reverse])]

theorem newest_accepted_twice (h : xs.Pairwise Differ)
    (hself : ∀ x ∈ xs, x.sameReading x = true) :
    newest n (accepted n (xs ++ xs)) = newest n (accepted n xs) := by
  rw [accepted_of_pairwise h]
  rcases Nat.lt_or_ge n xs.length with hn | hn
  · rw [accepted_twice_of_lt h hn, newest_append_of_le (Nat.le_of_lt hn)]
  · rw [accepted_twice_of_le h hself hn]

/-! ### Backlogs -/

/-- Samples of any devices and metrics, in the order of arrival. -/
abbrev Backlog := List (DeviceId × Sample)

namespace Backlog

def arrive (b : Backlog) : List Operation := b.map fun p => .ingest p.1 p.2

/-- No two samples of one metric of a device are of the same reading. -/
def Apart (b : Backlog) : Prop :=
  b.Pairwise fun p q => p.1 = q.1 → p.2.metric = q.2.metric → p.2.sameReading q.2 = false

variable {b : Backlog} {id metric : String}

lemma sinceClear_arrive (b : Backlog) : sinceClear b.arrive = b.arrive := by
  unfold sinceClear arrive
  rw [List.takeWhile_eq_self_iff.2, List.reverse_reverse]
  intro op hop
  obtain ⟨p, -, rfl⟩ := List.mem_map.1 (List.mem_reverse.1 hop)
  rfl

lemma samplesOf_arrive (b : Backlog) : samplesOf id metric b.arrive =
    b.filterMap fun p => (Operation.ingest p.1 p.2).sampleOf? id metric := by
  rw [samplesOf, sinceClear_arrive, arrive, List.filterMap_map]
  rfl

lemma sampleOf?_ingest_eq_some {d : DeviceId} {x y : Sample} :
    (Operation.ingest d x).sampleOf? id metric = some y ↔
      d = ⟨id⟩ ∧ x.metric = metric ∧ x = y := by
  have htext : d.text = id ↔ d = ⟨id⟩ := DeviceId.text_inj (e := ⟨id⟩)
  simp only [Operation.sampleOf?, htext]
  split_ifs with h <;> simp [h, ← and_assoc]

lemma Apart.pairwise (h : b.Apart) : (samplesOf id metric b.arrive).Pairwise Differ := by
  rw [samplesOf_arrive, List.pairwise_filterMap]
  refine h.imp fun {p q} hpq x hx y hy => ?_
  obtain ⟨hd, hm, rfl⟩ := sampleOf?_ingest_eq_some.1 hx
  obtain ⟨hd', hm', rfl⟩ := sampleOf?_ingest_eq_some.1 hy
  have hdiffer := hpq (hd.trans hd'.symm) (hm.trans hm'.symm)
  exact ⟨hdiffer, Sample.sameReading_comm p.2 q.2 ▸ hdiffer⟩

lemma sameReading_of_mem_samplesOf (h : ∀ p ∈ b, p.2.value.IsDefinite) {x : Sample}
    (hx : x ∈ samplesOf id metric b.arrive) : x.sameReading x = true := by
  rw [samplesOf_arrive, List.mem_filterMap] at hx
  obtain ⟨p, hp, hx⟩ := hx
  obtain ⟨-, -, rfl⟩ := sampleOf?_ingest_eq_some.1 hx
  exact Sample.sameReading_self (h p hp)

lemma get_twice (n : Nat) (hb : b.Apart) (hdefinite : ∀ p ∈ b, p.2.value.IsDefinite)
    (id metric : String) : ((Store.new n).performAll (b ++ b).arrive).get id metric =
      ((Store.new n).performAll b.arrive).get id metric := by
  have htwice : samplesOf id metric (b ++ b).arrive =
      samplesOf id metric b.arrive ++ samplesOf id metric b.arrive := by
    simp only [samplesOf_arrive, List.filterMap_append]
  rw [get_performAll, get_performAll, htwice]
  exact newest_accepted_twice hb.pairwise fun _ hx => sameReading_of_mem_samplesOf hdefinite hx

lemma mem_list_twice (n : Nat) (b : Backlog) (id : DeviceId) :
    id ∈ ((Store.new n).performAll (b ++ b).arrive).list ↔
      id ∈ ((Store.new n).performAll b.arrive).list := by
  have htwice : ∀ op, op ∈ (b ++ b).arrive ↔ op ∈ b.arrive := fun op => by simp [arrive]
  rw [mem_list_performAll, mem_list_performAll, sinceClear_arrive, sinceClear_arrive]
  simp only [htwice]

end Backlog

/-- Texts in ascending order are determined by which texts they are. -/
lemma eq_of_ascending {ks ls : List String} (hk : ks.Pairwise (· < ·)) (hl : ls.Pairwise (· < ·))
    (h : ∀ k, k ∈ ks ↔ k ∈ ls) : ks = ls := by
  apply List.Perm.eq_of_pairwise _ hk hl
  · exact (List.perm_ext_iff_of_nodup hk.nodup hl.nodup).2 h
  · intro a b _ _ hab hba
    exact absurd (Std.lt_trans hab hba) Std.lt_irrefl

/-- A backlog that comes twice in a row leaves the same histories, devices and metrics behind as one
that comes once, whatever it has of each and however much the store holds, if there is no NaN in it;
and no message brings one. -/
theorem replay_invisible (n : Nat) (b : Backlog) (hb : b.Apart)
    (hdefinite : ∀ p ∈ b, p.2.value.IsDefinite) :
    let once := (Store.new n).performAll b.arrive
    let twice := (Store.new n).performAll (b.arrive ++ b.arrive)
    (∀ id metric, twice.get id metric = once.get id metric) ∧
    twice.list = once.list ∧
    (∀ id, twice.metricNames id = once.metricNames id) ∧
    ∀ clock raw m, Message.parse clock raw = .ok (.metric m) → m.sample.value.IsDefinite := by
  intro once twice
  have htwice : twice = (Store.new n).performAll (b ++ b).arrive := by
    rw [Backlog.arrive, List.map_append]
    rfl
  have hget : ∀ id metric, twice.get id metric = once.get id metric := fun id metric => by
    rw [htwice]
    exact Backlog.get_twice n hb hdefinite id metric
  have honce : once.IsOrderly := isOrderly_performAll n _
  have htwice' : twice.IsOrderly := isOrderly_performAll n _
  refine ⟨hget, ?_, fun id => ?_, fun _ _ _ => Message.isDefinite_of_parse⟩
  · have hkeys : Table.keys twice.devices = Table.keys once.devices := by
      refine eq_of_ascending htwice'.sorted honce.sorted fun key => ?_
      have hlist := Backlog.mem_list_twice n b ⟨key⟩
      rwa [← htwice, mem_list_iff, mem_list_iff] at hlist
    rw [list, list, hkeys]
  · refine eq_of_ascending (htwice'.sorted_metricNames id) (honce.sorted_metricNames id)
      fun metric => ?_
    rw [htwice'.mem_metricNames_iff, honce.mem_metricNames_iff, hget]

/-- More than two, two and one sample of three metrics, in turns. -/
def Backlog.interleaved : Backlog :=
  [(⟨"r1"⟩, ⟨"load", .number (.ofNat 1), "1"⟩), (⟨"r2"⟩, ⟨"load", .number (.ofNat 1), "1"⟩),
    (⟨"r1"⟩, ⟨"load", .number (.ofNat 2), "1"⟩), (⟨"r1"⟩, ⟨"name", .text "a", "1"⟩),
    (⟨"r1"⟩, ⟨"load", .number (.ofNat 1), "2"⟩), (⟨"r1"⟩, ⟨"name", .list [.text "a"], "1"⟩)]

theorem replay_interleaved :
    Backlog.interleaved.Apart ∧ (∀ p ∈ Backlog.interleaved, p.2.value.IsDefinite) ∧
    let once := (Store.new 2).performAll Backlog.interleaved.arrive
    let twice := (Store.new 2).performAll
      (Backlog.interleaved.arrive ++ Backlog.interleaved.arrive)
    twice.get "r1" "load" = once.get "r1" "load" ∧
    (once.get "r1" "load").map Sample.timestamp = ["1", "2"] ∧
    twice.get "r1" "name" = once.get "r1" "name" ∧ (once.get "r1" "name").length = 2 ∧
    twice.get "r2" "load" = once.get "r2" "load" ∧ (once.get "r2" "load").length = 1 ∧
    twice.list = [⟨"r1"⟩, ⟨"r2"⟩] ∧ twice.metricNames "r1" = ["load", "name"] := by
  have hapart : Backlog.interleaved.Apart := by
    unfold Backlog.Apart
    decide +kernel
  have hdefinite : ∀ p ∈ Backlog.interleaved, p.2.value.IsDefinite := by
    have hnumber : ∀ k, (Binary64.ofNat k).isNaN = false := fun k => Binary64.isNaN_ofRatio _ _ _
    simp [Backlog.interleaved, Measurement.IsDefinite, hnumber, Json.IsDefinite.text]
  obtain ⟨hget, hlist, hnames, -⟩ := replay_invisible 2 Backlog.interleaved hapart hdefinite
  exact ⟨hapart, hdefinite, hget _ _, by decide +kernel, hget _ _, by decide +kernel, hget _ _,
    by decide +kernel, hlist.trans (by decide +kernel), (hnames "r1").trans (by decide +kernel)⟩

/-- A single sample that is not a number. -/
def Backlog.undefined : Backlog := [(⟨"r1"⟩, ⟨"cpu", .number .nan, "t"⟩)]

/-- A NaN is no reading that is known already, however often it comes. -/
theorem replay_undefined_visible :
    Backlog.undefined.Apart ∧
    let once := (Store.new 2).performAll Backlog.undefined.arrive
    let twice := (Store.new 2).performAll (Backlog.undefined.arrive ++ Backlog.undefined.arrive)
    (once.get "r1" "cpu").length = 1 ∧ (twice.get "r1" "cpu").length = 2 := by
  unfold Backlog.Apart
  decide +kernel

end LiveTelemetry.Store
