import LiveTelemetry.Proofs.Table
import LiveTelemetry.Toml.Document

/-!
Tables of TOML documents. Main statement: whatever statements a document is made of, each table that
names lead to has its entries in order, with one entry per name.
-/
namespace LiveTelemetry.Toml

mutual

/-- Tables within tables have their entries in order. -/
def Neat : Toml → Prop
  | table es => Table.Sorted es ∧ NeatEntries es
  | _ => True

def NeatEntries : List (String × Toml) → Prop
  | [] => True
  | (_, v) :: es => v.Neat ∧ NeatEntries es

end

lemma neatEntries_iff {es : List (String × Toml)} : NeatEntries es ↔ ∀ e ∈ es, e.2.Neat := by
  induction es with
  | nil => simp [NeatEntries]
  | cons e es ih => simp [NeatEntries, ih]

lemma closeEntries_eq_map (ns : Nodes) : closeEntries ns = ns.map fun e => (e.1, e.2.close) := by
  induction ns with
  | nil => rfl
  | cons e ns ih =>
    obtain ⟨k, n⟩ := e
    rw [closeEntries, ih, List.map_cons]

/-- What is built up will be a table with its entries in order. -/
structure Nodes.Neat (ns : Nodes) : Prop where
  sorted : Table.Sorted ns
  entries : ∀ e ∈ ns, e.2.close.Neat

lemma neat_closeEntries {ns : Nodes} : (table (closeEntries ns)).Neat ↔ ns.Neat := by
  have hkeys : (closeEntries ns).map Prod.fst = ns.map Prod.fst := by
    rw [closeEntries_eq_map, List.map_map]
    rfl
  have hentries : NeatEntries (closeEntries ns) ↔ ∀ e ∈ ns, e.2.close.Neat := by
    rw [neatEntries_iff, closeEntries_eq_map, List.forall_mem_map]
  rw [Toml.Neat, hentries, Table.Sorted, Table.keys, hkeys]
  exact ⟨fun h => ⟨h.1, h.2⟩, fun h => ⟨h.1, h.2⟩⟩

namespace Nodes

variable {ns ns' : Nodes} {path : List String} {key : String} {n : Node} {made : Made}

lemma neat_nil : Neat [] := ⟨List.Pairwise.nil, fun _ h => by cases h⟩

lemma Neat.put (h : ns.Neat) (hn : n.close.Neat) : Neat (Table.put key n ns) := by
  refine ⟨h.sorted.put key n, fun e he => ?_⟩
  rcases Table.mem_put he with rfl | he
  · exact hn
  · exact h.entries e he

lemma neat_of_lookup (h : ns.Neat) (hn : Table.lookup key ns = some n) : n.close.Neat :=
  h.entries _ (Table.mem_of_lookup hn)

lemma close_table : (Node.table made ns).close.Neat ↔ ns.Neat := by
  rw [Node.close, neat_closeEntries]

lemma close_tables {older : List (List (String × Node))} : (Node.tables ns older).close.Neat := by
  rw [Node.close, Toml.Neat]
  all_goals simp

/-- Adding an entry keeps all tables in order. -/
lemma Neat.addPair {v : Toml} (hv : v.Neat) (h : ns.Neat)
    (ha : ns.addPair path key v = some ns') : ns'.Neat := by
  induction path generalizing ns ns' with
  | nil =>
    unfold Nodes.addPair at ha
    split at ha
    · cases ha
      exact h.put (by rwa [Node.close])
    · cases ha
  | cons p ps ih =>
    unfold Nodes.addPair at ha
    split at ha
    · obtain ⟨sub, hsub, rfl⟩ := Option.map_eq_some_iff.1 ha
      exact h.put (close_table.2 (ih neat_nil hsub))
    · next made old hold =>
      split_ifs at ha
      obtain ⟨sub, hsub, rfl⟩ := Option.map_eq_some_iff.1 ha
      exact h.put (close_table.2 (ih (close_table.1 (neat_of_lookup h hold)) hsub))
    · cases ha

/-- What changes one table and keeps it in order keeps all of them. -/
lemma Neat.within {f : Nodes → Option Nodes}
    (hf : ∀ {ns ns' : Nodes}, ns.Neat → f ns = some ns' → ns'.Neat) (h : ns.Neat)
    (hw : ns.within path f = some ns') : ns'.Neat := by
  induction path generalizing ns ns' with
  | nil => exact hf h hw
  | cons p ps ih =>
    unfold Nodes.within at hw
    split at hw
    · obtain ⟨sub, hsub, rfl⟩ := Option.map_eq_some_iff.1 hw
      exact h.put (close_table.2 (ih neat_nil hsub))
    · next made old hold =>
      obtain ⟨sub, hsub, rfl⟩ := Option.map_eq_some_iff.1 hw
      exact h.put (close_table.2 (ih (close_table.1 (neat_of_lookup h hold)) hsub))
    · obtain ⟨sub, -, rfl⟩ := Option.map_eq_some_iff.1 hw
      exact h.put close_tables
    · cases hw

lemma Neat.openTable (h : ns.Neat) (ho : ns.openTable key = some ns') : ns'.Neat := by
  unfold Nodes.openTable at ho
  split at ho
  · cases ho
    exact h.put (close_table.2 neat_nil)
  · next old hold =>
    cases ho
    exact h.put (close_table.2 (close_table.1 (neat_of_lookup h hold)))
  · cases ho

lemma Neat.openElement (h : ns.Neat) (ho : ns.openElement key = some ns') : ns'.Neat := by
  unfold Nodes.openElement at ho
  split at ho
  · cases ho
    exact h.put close_tables
  · cases ho
    exact h.put close_tables
  · cases ho

end Nodes

/-! ### Values -/

lemma neat_scalar? {cs : List Char} {v : Toml} (h : scalar? cs = some v) : v.Neat := by
  simp only [scalar?, Option.or_eq_some_iff, Option.map_eq_some_iff] at h
  obtain ⟨_, -, rfl⟩ | ⟨-, ⟨_, -, rfl⟩ | ⟨-, ⟨_, -, rfl⟩ | ⟨-, _, -, rfl⟩⟩⟩ := h <;>
    simp [Neat]

lemma neat_bare? {cs r : List Char} {v : Toml} (h : bare? cs = some (v, r)) : v.Neat := by
  unfold bare? at h
  dsimp only at h
  split_ifs at h
  · obtain ⟨w, hw, he⟩ := Option.map_eq_some_iff.1 h
    cases he
    exact neat_scalar? hw
  · obtain ⟨w, hw, he⟩ := Option.map_eq_some_iff.1 h
    cases he
    exact neat_scalar? hw

lemma neat_pairs? {item : List Char → Option (Toml × List Char)}
    (hitem : ∀ {cs v r}, item cs = some (v, r) → v.Neat) {n : Nat} {ns ns' : Nodes}
    {cs r : List Char} (h : ns.Neat) (hp : pairs? item n ns cs = some (ns', r)) : ns'.Neat := by
  induction n generalizing ns cs with
  | zero => cases hp
  | succ n ih =>
    unfold pairs? at hp
    obtain ⟨cs, -, hp⟩ := Option.bind_eq_some_iff.1 hp
    split at hp
    · cases hp
      exact h
    · obtain ⟨⟨⟨path, key⟩, r'⟩, -, hp⟩ := Option.bind_eq_some_iff.1 hp
      dsimp only at hp
      split at hp
      · obtain ⟨⟨v, r''⟩, hv, hp⟩ := Option.bind_eq_some_iff.1 hp
        obtain ⟨ns₁, hadd, hp⟩ := Option.bind_eq_some_iff.1 hp
        obtain ⟨cs', -, hp⟩ := Option.bind_eq_some_iff.1 hp
        have h₁ : ns₁.Neat := h.addPair (hitem hv) hadd
        split at hp
        · exact ih h₁ hp
        · cases hp
          exact h₁
        · cases hp
      · cases hp

lemma neat_value? {d : Nat} {cs r : List Char} {v : Toml} (h : value? d cs = some (v, r)) :
    v.Neat := by
  induction d using Nat.strongRecOn generalizing cs r v with
  | ind d ih =>
    unfold value? at h
    split at h
    · cases h
    · cases h
    · obtain ⟨_, -, he⟩ := Option.map_eq_some_iff.1 h
      cases he
      simp [Neat]
    · next d _ =>
      obtain ⟨⟨ns, _⟩, hp, he⟩ := Option.map_eq_some_iff.1 h
      cases he
      exact neat_closeEntries.2 (neat_pairs? (ih d (Nat.lt_succ_self d)) Nodes.neat_nil hp)
    · split at h
      · cases h
        simp [Neat]
      · exact neat_bare? h

/-- A document carries out its statements in tables that stay in order. -/
lemma neat_build? {header : List String} {ns ns' : Nodes} {ss : List Statement}
    (hss : ∀ key v, .pair key v ∈ ss → v.Neat) (h : ns.Neat)
    (hb : build? header ns ss = some ns') : ns'.Neat := by
  induction ss generalizing header ns with
  | nil =>
    cases hb
    exact h
  | cons s ss ih =>
    have hrest := fun key v hs => hss key v (List.mem_cons_of_mem _ hs)
    cases s with
    | pair key v =>
      have hv : v.Neat := hss key v List.mem_cons_self
      obtain ⟨ns₁, hw, hb⟩ := Option.bind_eq_some_iff.1 hb
      exact ih hrest (h.within (fun h ha => h.addPair hv ha) hw) hb
    | table key =>
      obtain ⟨ns₁, hw, hb⟩ := Option.bind_eq_some_iff.1 hb
      exact ih hrest (h.within (fun h ho => h.openTable ho) hw) hb
    | element key =>
      obtain ⟨ns₁, hw, hb⟩ := Option.bind_eq_some_iff.1 hb
      exact ih hrest (h.within (fun h ho => h.openElement ho) hw) hb

lemma neat_statement? {n : Nat} {cs r : List Char} {key : Header} {v : Toml}
    (h : statement? n cs = some (.pair key v, r)) : v.Neat := by
  unfold statement? at h
  split at h
  · obtain ⟨_, -, h⟩ := Option.bind_eq_some_iff.1 h
    dsimp only at h
    split at h
    · obtain ⟨_, -, he⟩ := Option.map_eq_some_iff.1 h
      cases he
    · cases h
  · obtain ⟨_, -, h⟩ := Option.bind_eq_some_iff.1 h
    dsimp only at h
    split at h
    · obtain ⟨_, -, he⟩ := Option.map_eq_some_iff.1 h
      cases he
    · cases h
  · obtain ⟨_, -, h⟩ := Option.bind_eq_some_iff.1 h
    dsimp only at h
    split at h
    · obtain ⟨⟨w, _⟩, hv, h⟩ := Option.bind_eq_some_iff.1 h
      obtain ⟨_, -, he⟩ := Option.map_eq_some_iff.1 h
      cases he
      exact neat_value? hv
    · cases h

lemma neat_statements? {n : Nat} {cs : List Char} {ss : List Statement}
    (h : statements? n cs = some ss) : ∀ key v, .pair key v ∈ ss → v.Neat := by
  induction n generalizing cs ss with
  | zero => cases h
  | succ n ih =>
    unfold statements? at h
    obtain ⟨cs, -, h⟩ := Option.bind_eq_some_iff.1 h
    dsimp only at h
    split at h
    · cases h
      intro _ _ hs
      cases hs
    · obtain ⟨⟨s, r⟩, hstatement, h⟩ := Option.bind_eq_some_iff.1 h
      obtain ⟨rest, hrest, h⟩ := Option.bind_eq_some_iff.1 h
      cases h
      intro key v hs
      rcases List.mem_cons.1 hs with rfl | hs
      · exact neat_statement? hstatement
      · exact ih hrest key v hs

/-- The tables of a document have their entries in order, with one entry per name. -/
theorem neat_parse? {s : String} {es : List (String × Toml)} (h : parse? s = some es) :
    (table es).Neat := by
  unfold parse? at h
  obtain ⟨ss, hss, h⟩ := Option.bind_eq_some_iff.1 h
  obtain ⟨ns, hns, h⟩ := Option.bind_eq_some_iff.1 h
  cases h
  exact neat_closeEntries.2 (neat_build? (neat_statements? hss) Nodes.neat_nil hns)

end LiveTelemetry.Toml
