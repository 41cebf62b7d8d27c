/-!
Tables from texts to values: lists of entries in ascending order of their keys, with one entry per
key. Texts are compared by their characters, which is also the order of their UTF-8 octets.
-/
namespace LiveTelemetry

abbrev Table (α : Type) := List (String × α)

namespace Table

variable {α β : Type}

def lookup (key : String) : Table α → Option α
  | [] => none
  | (k, v) :: t => if k = key then some v else lookup key t

/-- Sets the entry of a key, in the place that the order gives it. -/
def put (key : String) (value : α) : Table α → Table α
  | [] => [(key, value)]
  | (k, v) :: t =>
    if key < k then (key, value) :: (k, v) :: t
    else if k = key then (key, value) :: t
    else (k, v) :: put key value t

def remove (key : String) (t : Table α) : Table α := t.filter fun e => e.1 != key

def ofList (entries : List (String × α)) : Table α :=
  entries.foldl (fun t e => put e.1 e.2 t) []

def keys (t : Table α) : List String := t.map Prod.fst

def Sorted (t : Table α) : Prop := (keys t).Pairwise (· < ·)

@[simp] theorem lookup_nil (key : String) : lookup key ([] : Table α) = none := rfl

theorem lookup_put_self (key : String) (v : α) (t : Table α) :
    lookup key (put key v t) = some v := by
  induction t with
  | nil => simp [put, lookup]
  | cons e t ih => grind [put, lookup]

theorem lookup_put_of_ne {key k : String} (h : k ≠ key) (v : α) (t : Table α) :
    lookup k (put key v t) = lookup k t := by
  induction t with
  | nil => simp [put, lookup, Ne.symm h]
  | cons e t ih => grind [put, lookup]

theorem lookup_put (key k : String) (v : α) (t : Table α) :
    lookup k (put key v t) = if k = key then some v else lookup k t := by
  by_cases h : k = key
  · simp [h, lookup_put_self]
  · simp [h, lookup_put_of_ne h]

theorem lookup_isSome_iff (key : String) (t : Table α) :
    (lookup key t).isSome = true ↔ key ∈ keys t := by
  induction t with
  | nil => simp [keys]
  | cons e t ih => grind [lookup, keys]

theorem mem_keys_put (key k : String) (v : α) (t : Table α) :
    k ∈ keys (put key v t) ↔ k = key ∨ k ∈ keys t := by
  rw [← lookup_isSome_iff, ← lookup_isSome_iff, lookup_put]
  split <;> simp_all

theorem Sorted.put {t : Table α} (h : Sorted t) (key : String) (v : α) : Sorted (put key v t) := by
  induction t with
  | nil => simp [Sorted, Table.put, keys]
  | cons e t ih =>
    obtain ⟨k, w⟩ := e
    have hk : ∀ x ∈ keys t, k < x := (List.pairwise_cons.1 h).1
    have ht : Sorted t := (List.pairwise_cons.1 h).2
    unfold Table.put
    split
    · rename_i hlt
      refine List.pairwise_cons.2 ⟨?_, h⟩
      intro x hx
      rcases List.mem_cons.1 hx with rfl | hx
      · exact hlt
      · exact String.lt_trans hlt (hk x hx)
    · split
      · rename_i heq
        subst heq
        exact List.pairwise_cons.2 ⟨hk, ht⟩
      · rename_i hlt hne
        refine List.pairwise_cons.2 ⟨?_, ih ht⟩
        intro x hx
        rcases (mem_keys_put key x v t).1 hx with rfl | hx
        · rcases Std.lt_trichotomy k x with h | h | h
          · exact h
          · exact absurd h hne
          · exact absurd h hlt
        · exact hk x hx

theorem Sorted.remove {t : Table α} (h : Sorted t) (key : String) : Sorted (remove key t) :=
  List.Pairwise.sublist (List.filter_sublist.map Prod.fst) h

theorem sorted_ofList (entries : List (String × α)) : Sorted (ofList entries) := by
  suffices ∀ (t : Table α), Sorted t →
      Sorted (entries.foldl (fun t e => Table.put e.1 e.2 t) t) from
    this [] List.Pairwise.nil
  induction entries with
  | nil => exact fun t h => h
  | cons e entries ih => exact fun t h => ih _ (h.put e.1 e.2)

example : ofList [("b", 1), ("a", 2), ("b", 3)] = [("a", 2), ("b", 3)] := by decide +kernel

end Table
end LiveTelemetry
