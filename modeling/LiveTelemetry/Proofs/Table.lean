import LiveTelemetry.Table
import Mathlib.Data.List.Induction
import Mathlib.Data.List.Perm.Basic
import Mathlib.Tactic.Common

/-!
Entries of tables. Main statements: in a table that is in order every entry is found, and a table
made of entries that share no key holds just these.
-/
namespace LiveTelemetry.Table

variable {α : Type} {t : Table α} {key : String} {v : α} {es : List (String × α)}
  {e : String × α}

lemma sorted_nil : Sorted ([] : Table α) := List.Pairwise.nil

lemma Sorted.nodup (h : Sorted t) : (t.map Prod.fst).Nodup :=
  List.Pairwise.imp (fun {a b} (hlt : a < b) (heq : a = b) => Std.lt_irrefl (heq ▸ hlt)) h

/-! ### Entries that are found -/

lemma mem_of_lookup (h : lookup key t = some v) : (key, v) ∈ t := by
  induction t with
  | nil => cases h
  | cons e t ih =>
    obtain ⟨k, w⟩ := e
    unfold lookup at h
    split_ifs at h with hk
    · cases h
      subst hk
      exact List.mem_cons_self
    · exact List.mem_cons_of_mem _ (ih h)

lemma Sorted.lookup_of_mem (hs : Sorted t) (h : (key, v) ∈ t) : lookup key t = some v := by
  induction t with
  | nil => cases h
  | cons e t ih =>
    obtain ⟨k, w⟩ := e
    obtain ⟨hlt, ht⟩ := List.pairwise_cons.1 hs
    unfold lookup
    rcases List.mem_cons.1 h with he | h
    · cases he
      rw [if_pos rfl]
    · have hk : k < key := hlt key (List.mem_map_of_mem h)
      rw [if_neg (fun e => Std.lt_irrefl (e ▸ hk)), ih ht h]

lemma lookup_eq_none_of_notMem (h : key ∉ t.map Prod.fst) : lookup key t = none := by
  rw [← Option.not_isSome_iff_eq_none, lookup_isSome_iff]
  exact h

lemma lookup_remove_of_ne {k : String} (h : k ≠ key) : lookup k (remove key t) = lookup k t := by
  unfold remove
  induction t with
  | nil => rfl
  | cons e t ih =>
    obtain ⟨k', w⟩ := e
    by_cases hk : k' = key
    · subst hk
      rw [List.filter_cons_of_neg (by simp), ih, lookup, if_neg (Ne.symm h)]
    · rw [List.filter_cons_of_pos (by simpa using hk), lookup, lookup, ih]

lemma lookup_filter_of_lookup {p : String × α → Bool} (h : lookup key t = some v)
    (hp : p (key, v) = true) : lookup key (t.filter p) = some v := by
  induction t with
  | nil => cases h
  | cons e t ih =>
    obtain ⟨k, w⟩ := e
    unfold lookup at h
    split_ifs at h with hk
    · cases h
      subst hk
      rw [List.filter_cons_of_pos hp, lookup, if_pos rfl]
    · cases hw : p (k, w) with
      | true => rw [List.filter_cons_of_pos hw, lookup, if_neg hk, ih h]
      | false => rw [List.filter_cons_of_neg (by rw [hw]; exact Bool.false_ne_true), ih h]

/-! ### Entries that are put in -/

lemma mem_put (h : e ∈ put key v t) : e = (key, v) ∨ e ∈ t := by
  induction t with
  | nil => exact .inl (List.mem_singleton.1 h)
  | cons f t ih =>
    obtain ⟨k, w⟩ := f
    unfold put at h
    split_ifs at h
    · exact List.mem_cons.1 h
    · exact (List.mem_cons.1 h).imp_right (List.mem_cons_of_mem _)
    · rcases List.mem_cons.1 h with rfl | h
      · exact .inr List.mem_cons_self
      · exact (ih h).imp_right (List.mem_cons_of_mem _)

lemma perm_put_of_notMem (h : key ∉ t.map Prod.fst) : (put key v t).Perm ((key, v) :: t) := by
  induction t with
  | nil => exact .refl _
  | cons f t ih =>
    obtain ⟨k, w⟩ := f
    rw [List.map_cons, List.mem_cons, not_or] at h
    unfold put
    split_ifs with hlt heq
    · exact .refl _
    · exact absurd heq.symm h.1
    · exact ((ih h.2).cons _).trans (.swap _ _ _)

lemma ofList_concat (es : List (String × α)) (e : String × α) :
    ofList (es ++ [e]) = put e.1 e.2 (ofList es) := by
  rw [ofList, List.foldl_append]
  rfl

lemma mem_of_mem_ofList (h : e ∈ ofList es) : e ∈ es := by
  induction es using List.reverseRecOn with
  | nil => cases h
  | append_singleton es f ih =>
    rw [ofList_concat] at h
    rw [List.mem_append, List.mem_singleton]
    exact (mem_put h).symm.imp_left ih

/-- Where no two entries share a key, the table has all of them. -/
theorem perm_ofList (h : (es.map Prod.fst).Nodup) : (ofList es).Perm es := by
  induction es using List.reverseRecOn with
  | nil => exact .refl _
  | append_singleton es f ih =>
    rw [List.map_append, List.nodup_append] at h
    obtain ⟨hes, -, hapart⟩ := h
    have hf : f.1 ∉ (ofList es).map Prod.fst := by
      rw [((ih hes).map Prod.fst).mem_iff]
      exact fun hmem => hapart _ hmem _ (by simp) rfl
    rw [ofList_concat]
    exact (perm_put_of_notMem hf).trans ((ih hes).cons f |>.trans (List.perm_append_singleton f es).symm)

/-- A table that is in order is made of its entries, whatever order they come in. -/
lemma Sorted.ofList_of_perm (hs : Sorted t) (hp : es.Perm t) : ofList es = t := by
  have hn : (es.map Prod.fst).Nodup := (hp.map Prod.fst).nodup_iff.2 hs.nodup
  have hsorted := List.pairwise_map.1 (sorted_ofList es)
  apply ((perm_ofList hn).trans hp).eq_of_pairwise _ hsorted (List.pairwise_map.1 hs)
  intro e f _ _ hef hfe
  exact absurd (Std.lt_trans hef hfe) Std.lt_irrefl

lemma lookup_ofList_of_mem (hn : (es.map Prod.fst).Nodup) (h : (key, v) ∈ es) :
    lookup key (ofList es) = some v :=
  (sorted_ofList es).lookup_of_mem ((perm_ofList hn).mem_iff.2 h)

lemma lookup_ofList_of_notMem (h : key ∉ es.map Prod.fst) : lookup key (ofList es) = none := by
  apply lookup_eq_none_of_notMem
  intro hmem
  obtain ⟨e, he, rfl⟩ := List.mem_map.1 hmem
  exact h (List.mem_map_of_mem (mem_of_mem_ofList he))

end LiveTelemetry.Table
