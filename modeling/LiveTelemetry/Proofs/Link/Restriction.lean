import LiveTelemetry.Proofs.Link.Totals

/-!
Logs of one device. Main statement: a log that is filtered to a device from the start is the log
of the events of that device alone, and shows at least what a log of all events shows of it.
-/
namespace LiveTelemetry.LinkLog

/-- Events arrive one after the other, each at a reading of the clock. -/
def arrive (s : List (Nat × LinkEvent)) : List Operation := s.map fun p => .ingest p.1 p.2

variable {f : Option DeviceId}

lemma arrive_push (s : List (Nat × LinkEvent)) (p : Nat × LinkEvent) :
    arrive (s ++ [p]) = arrive s ++ [.ingest p.1 p.2] := by
  simp [arrive]

lemma filterAfter_arrive (s : List (Nat × LinkEvent)) : filterAfter f (arrive s) = f := by
  induction s using List.reverseRecOn with
  | nil => rfl
  | append_singleton s p ih =>
    rw [arrive_push, filterAfter, List.foldl_append]
    exact ih

/-- While nothing else happens, the filter decides alone. -/
lemma acceptedSince_arrive (part : Part) (s : List (Nat × LinkEvent)) :
    acceptedSince part f (arrive s) = (s.map Prod.snd).filter fun e => Admits f e := by
  induction s using List.reverseRecOn with
  | nil => rfl
  | append_singleton s p ih =>
    have hclears : (Operation.ingest p.1 p.2).clears part = false := rfl
    rw [arrive_push, acceptedSince_push, hclears, if_neg Bool.false_ne_true, ih, filterAfter_arrive,
      List.map_append, List.filter_append]
    rfl

lemma filter_take_prefix {α : Type} (p : α → Bool) (n : Nat) (xs : List α) :
    (xs.take n).filter p <+: (xs.filter p).take n := by
  rw [List.prefix_take_iff]
  constructor
  · exact (List.take_prefix n xs).filter p
  · exact Nat.le_trans (List.length_filter_le p _) (List.length_take_le n xs)

/-- The events of one device. -/
def ofDevice (r : DeviceId) (s : List (Nat × LinkEvent)) : List (Nat × LinkEvent) :=
  s.filter fun p => p.2.router = r

lemma acceptedSince_none (part : Part) (s : List (Nat × LinkEvent)) :
    acceptedSince part none (arrive s) = s.map Prod.snd := by
  rw [acceptedSince_arrive, List.filter_eq_self]
  intro e _
  simp [Admits]

/-- A filter accepts what would reach a log of the device alone. -/
lemma acceptedSince_some (part : Part) (r : DeviceId) (s : List (Nat × LinkEvent)) :
    acceptedSince part (some r) (arrive s) = (ofDevice r s).map Prod.snd := by
  rw [acceptedSince_arrive, List.filter_map, ofDevice]
  congr 2
  funext p
  simp [Admits, eq_comm]

/-- What a filter lets in from the start it shows. -/
lemma events_arrive (n : Nat) (f : Option DeviceId) (s : List (Nat × LinkEvent)) :
    let l := (fresh n f none).performAll (arrive s)
    l.events = l.buffer := by
  intro l
  have hf : l.filter = f := (filter_performAll _ _).trans (filterAfter_arrive s)
  have hbuffer : l.buffer = _ := buffer_performAll n f none (arrive s)
  rw [events_eq, hf, List.filter_eq_self]
  intro e he
  rw [hbuffer, acceptedSince_arrive] at he
  exact (List.mem_filter.1 (List.mem_reverse.1 (List.mem_of_mem_take he))).2

lemma eventsFor_eq (r : DeviceId) (l : LinkLog) :
    l.eventsFor r.text = l.buffer.filter fun e => e.router = r := by
  simp only [eventsFor, beq_eq_decide, DeviceId.text_inj]

/-- A log that is filtered to a device from the start shows and counts what an unfiltered log does
which only the events of that device reach. Of those an unfiltered log that all events reach still
shows the newest, up to where others have pushed them out. -/
theorem filtered_agrees (n : Nat) (r : DeviceId) (s : List (Nat × LinkEvent)) :
    let l := (filtered n r).performAll (arrive s)
    let own := (new n).performAll (arrive (ofDevice r s))
    let all := (new n).performAll (arrive s)
    l.events = own.events ∧ l.size = own.size ∧ l.statistics = own.statistics ∧
      all.eventsFor r.text <+: l.events := by
  intro l own all
  have hl : l.buffer = ((ofDevice r s).map Prod.snd).reverse.take (max n 1) := by
    rw [← acceptedSince_some .buffer]
    exact buffer_performAll n (some r) none (arrive s)
  have hown : own.buffer = ((ofDevice r s).map Prod.snd).reverse.take (max n 1) := by
    rw [← acceptedSince_none .buffer]
    exact buffer_performAll n none none (arrive (ofDevice r s))
  have hall : all.buffer = (s.map Prod.snd).reverse.take (max n 1) := by
    rw [← acceptedSince_none .buffer]
    exact buffer_performAll n none none (arrive s)
  have hevents : l.events = l.buffer := events_arrive n (some r) s
  have hownEvents : own.events = own.buffer := events_arrive n none (ofDevice r s)
  refine ⟨?_, ?_, ?_, ?_⟩
  · rw [hevents, hownEvents, hl, hown]
  · rw [size, size, hl, hown]
  · calc l.statistics = .ofEvents (acceptedSince .statistics (some r) (arrive s)) :=
        statistics_performAll n (some r) none (arrive s)
      _ = .ofEvents (acceptedSince .statistics none (arrive (ofDevice r s))) := by
        rw [acceptedSince_some, acceptedSince_none]
      _ = own.statistics := (statistics_performAll n none none _).symm
  · have hofDevice : ((s.map Prod.snd).reverse.filter fun e => decide (e.router = r)) =
        ((ofDevice r s).map Prod.snd).reverse := by
      rw [List.filter_reverse, List.filter_map]
      rfl
    rw [eventsFor_eq, hall, hevents, hl, ← hofDevice]
    exact filter_take_prefix _ _ _

/-- An event of another device pushes one out of a log that both reach. -/
example :
    let s := [(0, change "r" 1 .up), (0, change "q" 1 .up)]
    ((filtered 1 ⟨"r"⟩).performAll (arrive s)).events = [change "r" 1 .up] ∧
      ((new 1).performAll (arrive s)).eventsFor "r" = [] := by decide +kernel

end LiveTelemetry.LinkLog
