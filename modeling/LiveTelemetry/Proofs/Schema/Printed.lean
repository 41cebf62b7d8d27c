import LiveTelemetry.Proofs.Json.Rearrange
import LiveTelemetry.Proofs.Schema.Record
import LiveTelemetry.Schema.OfText

/-!
Reading printed data from text. Main statement: a datum that fits a schema is read back from its
text, whatever order the fields of its objects are written in.
-/
namespace LiveTelemetry.Schema

open Json (Cursor Blanks Ends Yields Rearranges RearrangesField stringText textOfFields)

variable {depth fuel : Nat} {c : Cursor} {a r : List Char} {read : TextReader} {j : Json}
  {d : Datum} {s : Schema}

/-- The reader makes the datum of the printed value, wherever it stands. -/
def Restores (read : TextReader) (depth : Nat) (j : Json) (d : Datum) : Prop :=
  ∀ ⦃fuel : Nat⦄ ⦃c : Cursor⦄ ⦃a r : List Char⦄, j.chars.length ≤ fuel → Blanks a → Ends r →
    c.rest = a ++ (j.chars ++ r) → Yields (read fuel depth c) d r

lemma rest_skipSpace {w t : List Char} {x : Char} (hw : w = x :: t)
    (hx : Cursor.isSpace x = false) (ha : Blanks a) (hc : c.rest = a ++ (w ++ r)) :
    c.skipSpace.rest = w ++ r := by
  rw [hw] at hc ⊢
  exact Cursor.skipSpace_of_blanks ha hx hc

/-- Behind blanks, a value is read by its first character. -/
lemma begin_of_blanks {α : Type} {read : Char → Cursor → Except Halt α} {w t : List Char}
    {x : Char} (hw : w = x :: t) (hx : Cursor.isSpace x = false) (ha : Blanks a)
    (hc : c.rest = a ++ (w ++ r)) : begin c read = read x c.skipSpace := by
  have hs := rest_skipSpace hw hx ha hc
  rw [hw] at hs
  unfold begin
  simp [Cursor.peek, hs]

/-! ### Scalars -/

lemma yields_textString {α : Type} {make : String → Except Mismatch α} {wanted s : String} {x : α}
    (hm : make s = .ok x) (hf : (stringText s).length ≤ fuel) (ha : Blanks a)
    (hc : c.rest = a ++ (stringText s ++ r)) : Yields (textString wanted make fuel c) x r := by
  obtain ⟨q, hq⟩ := (Json.quoted_stringText s).exists_cons
  have hs := rest_skipSpace hq (by decide) ha hc
  rw [hq] at hs hf
  obtain ⟨c₁, hread, hc₁⟩ := Json.readString_complete (c := c.skipSpace.next)
    (hq ▸ Json.quoted_stringText s) (Nat.le_of_succ_le hf) (by rw [Cursor.rest_next, hs]; rfl)
  unfold textString
  rw [begin_of_blanks hq (by decide) ha hc, if_pos rfl, hread]
  simp [hm, loose, settle, hc₁]

lemma restores_text (t : String) : Restores (ofText .text) depth (.text t) (.text t) := by
  intro fuel c a r hf ha _ hc
  rw [Json.chars] at hf hc
  exact yields_textString rfl hf ha hc

lemma restores_flag (b : Bool) : Restores (ofText .flag) depth (.flag b) (.flag b) := by
  intro fuel c a r _ ha _ hc
  have hword : ∀ {x : Char} {ws : List Char}, c.skipSpace.rest = x :: ws ++ r →
      Yields (placed ((c.skipSpace.next.word ws).map fun c => (Datum.flag b, c))) (.flag b) r := by
    intro x ws hs
    obtain ⟨c₁, hc₁, hr⟩ := (Cursor.word_iff (c := c.skipSpace.next)).2
      (by rw [Cursor.rest_next, hs]; rfl)
    simp [hc₁, placed, Except.map, hr]
  unfold ofText textFlag
  cases b with
  | true =>
    have htext : (Json.flag true).chars = 't' :: ['r', 'u', 'e'] := rfl
    have hs := rest_skipSpace htext (by decide) ha hc
    rw [begin_of_blanks htext (by decide) ha hc, if_pos rfl]
    exact hword (htext ▸ hs)
  | false =>
    have htext : (Json.flag false).chars = 'f' :: ['a', 'l', 's', 'e'] := rfl
    have hs := rest_skipSpace htext (by decide) ha hc
    rw [begin_of_blanks htext (by decide) ha hc, if_neg (by decide), if_pos rfl]
    exact hword (htext ▸ hs)

/-- Integers of 64 bits, with or without a sign. -/
def IsWord (n : Int) : Prop := -0x8000000000000000 ≤ n ∧ n < UInt64.size

/-- The text of an integer is a sign with digits, or digits only. -/
lemma exists_magnitude {n : Int} (h : IsWord n) : ∃ m : Json.Magnitude, m.WellFormed ∧
    ((Json.number (.integer n)).chars = m.chars ∧ m.value? false = some (.integer n) ∨
      (Json.number (.integer n)).chars = '-' :: m.chars ∧ m.value? true = some (.integer n)) := by
  have hdenotes : Json.Denotes 0 _ _ := Json.denotes_integer h.1 h.2
  generalize (Json.number (.integer n)).chars = w at hdenotes ⊢
  cases hdenotes with
  | positive hm hvalue => exact ⟨_, hm, .inl ⟨rfl, hvalue⟩⟩
  | negative hm hvalue => exact ⟨_, hm, .inr ⟨rfl, hvalue⟩⟩

lemma restores_word {name : String} {low high n : Int} (hn : low ≤ n ∧ n ≤ high)
    (hword : IsWord n) :
    Restores (ofText (.word name low high)) depth (.number (.integer n)) (.integer n) := by
  intro fuel c a r _ ha hr hc
  have hmake : wordDatum name low high n = .ok (.integer n) := if_pos hn
  unfold ofText textWord
  obtain ⟨m, hm, ⟨htext, hvalue⟩ | ⟨htext, hvalue⟩⟩ := exists_magnitude hword
  · obtain ⟨x, t, hx, hdigit⟩ := hm.exists_cons
    have hspace := Json.not_isSpace_of_isDigit hdigit
    have hsign : x ≠ '-' := by rintro rfl; simp at hdigit
    rw [htext] at hc
    obtain ⟨c₁, hread, hc₁⟩ :=
      Json.readNumber_complete hm hr (rest_skipSpace hx hspace ha hc) hvalue
    rw [begin_of_blanks hx hspace ha hc, if_pos (.inr hdigit), if_neg hsign,
      beq_false_of_ne hsign, hread]
    simp [hmake, loose, settle, hc₁]
  · have hs := rest_skipSpace htext (by decide) ha hc
    obtain ⟨c₁, hread, hc₁⟩ := Json.readNumber_complete (c := c.skipSpace.next) hm hr
      (by rw [Cursor.rest_next, hs, htext]; rfl) hvalue
    rw [begin_of_blanks htext (by decide) ha hc, if_pos (.inl rfl), if_pos rfl,
      beq_self_eq_true, hread]
    simp [hmake, loose, settle, hc₁]

lemma restores_choice {name tag : String} {tags : List String} (h : tag ∈ tags) :
    Restores (ofText (.choice name tags)) depth (.text tag) (.choice tag) := by
  intro fuel c a r hf ha _ hc
  have hmake : choiceDatum tags tag = .ok (.choice tag) := if_pos (by simpa using h)
  rw [Json.chars] at hf hc
  obtain ⟨q, hq⟩ := (Json.quoted_stringText tag).exists_cons
  have hs := rest_skipSpace hq (by decide) ha hc
  unfold ofText textChoice
  rw [begin_of_blanks hq (by decide) ha hc, if_pos rfl]
  exact yields_textString hmake hf Json.blanks_nil hs

/-! ### Optional values -/

lemma restores_absent : Restores (textOptional read) depth .null .absent := by
  intro fuel c a r _ ha _ hc
  have hs : c.skipSpace.rest = ['n', 'u', 'l', 'l'] ++ r :=
    Cursor.skipSpace_of_blanks ha (by decide) hc
  have hnext : c.skipSpace.next.rest = ['u', 'l', 'l'] ++ r := by rw [Cursor.rest_next, hs]; rfl
  obtain ⟨c₁, hc₁, hr⟩ := Cursor.word_iff.2 hnext
  unfold textOptional
  simp [Cursor.peek, hs, hc₁, placed, Except.map, hr]

lemma restores_present {x : Char} {t : List Char} (h : Restores read depth j d)
    (hj : j.chars = x :: t) (hspace : Cursor.isSpace x = false) (hx : x ≠ 'n') :
    Restores (textOptional read) depth j (.present d) := by
  intro fuel c a r hf ha hr hc
  have hs := rest_skipSpace hj hspace ha hc
  obtain ⟨c₁, hread, hc₁⟩ := h hf Json.blanks_nil hr hs
  rw [hj] at hs
  unfold textOptional
  simp [Cursor.peek, hs, hx, hread, Except.map, hc₁]

/-! ### Tables and records -/

/-- Data under the names of printed fields, each of which its reader restores. -/
def RestoresAll (depth : Nat) (reader : String → Option TextReader)
    (es : List (String × Datum)) (fs : List (String × Json)) : Prop :=
  List.Forall₂ (fun e f => e.1 = f.1 ∧ ∃ read, reader e.1 = some read ∧ Restores read depth f.2 e.2)
    es fs

variable {es entries : List (String × Datum)} {fs : List (String × Json)} {first : Bool}

lemma yields_textTable {acc : List (String × Datum)}
    (h : RestoresAll depth (fun _ => some read) es fs)
    (hf : (textOfFields first fs).length ≤ fuel) (hc : c.rest = textOfFields first fs ++ r) :
    Yields (textTable read fuel depth first acc c) (es.foldl (fun t e => Table.put e.1 e.2 t) acc)
      ('\x7d' :: r) := by
  induction h generalizing fuel first acc c with
  | nil =>
    obtain ⟨fuel, rfl⟩ : ∃ n, fuel = n + 1 := ⟨fuel - 1, by simp [textOfFields] at hf; omega⟩
    obtain ⟨c₁, hkey, hc₁⟩ := Cursor.nextKey_nil hc
    unfold textTable
    simp [hkey, hc₁]
  | @cons e f es fs hef hes ih =>
    obtain ⟨k, d⟩ := e
    obtain ⟨_, v⟩ := f
    obtain ⟨rfl, _, hread, hv⟩ := hef
    cases hread
    dsimp only at hv hc hf
    have hlen := @Json.length_textOfFields_cons first fs k v
    obtain ⟨fuel, rfl⟩ : ∃ n, fuel = n + 1 := ⟨fuel - 1, by omega⟩
    have hfk : (stringText k).length ≤ fuel := by omega
    have hfv : v.chars.length ≤ fuel := by omega
    obtain ⟨c₁, c₂, c₃, hkey, hstring, hcolon, hc₃⟩ := Cursor.reads_field hfk hc
    obtain ⟨c₄, hread, hc₄⟩ := hv hfv Json.blanks_nil Json.ends_textOfFields hc₃
    unfold textTable
    simp only [hkey, Cursor.key, hstring, hcolon, hread]
    exact ih (by omega) hc₄

lemma yields_textFields {fields : List (Field TextReader)} {found out : List (String × Datum)}
    (h : RestoresAll depth (fun k => (findField k fields).map Field.read) es fs)
    (hn : ((es.reverse ++ found).map Prod.fst).Nodup)
    (hout : assemble (es.reverse ++ found) fields = .ok out)
    (hf : (textOfFields first fs).length ≤ fuel) (hc : c.rest = textOfFields first fs ++ r) :
    Yields (textFields fields fuel depth first found c) out ('\x7d' :: r) := by
  induction h generalizing fuel first found c with
  | nil =>
    obtain ⟨fuel, rfl⟩ : ∃ n, fuel = n + 1 := ⟨fuel - 1, by simp [textOfFields] at hf; omega⟩
    obtain ⟨c₁, hkey, hc₁⟩ := Cursor.nextKey_nil hc
    rw [List.reverse_nil, List.nil_append] at hout
    unfold textFields
    simp [hkey, hout, loose, hc₁]
  | @cons e f es fs hef hes ih =>
    obtain ⟨k, d⟩ := e
    obtain ⟨_, v⟩ := f
    obtain ⟨rfl, read, hread, hv⟩ := hef
    obtain ⟨field, hfield, rfl⟩ := Option.map_eq_some_iff.1 hread
    dsimp only at hv hc hf hfield
    have hlen := @Json.length_textOfFields_cons first fs k v
    obtain ⟨fuel, rfl⟩ : ∃ n, fuel = n + 1 := ⟨fuel - 1, by omega⟩
    have hfk : (stringText k).length ≤ fuel := by omega
    have hfv : v.chars.length ≤ fuel := by omega
    obtain ⟨c₁, c₂, c₃, hkey, hstring, hcolon, hc₃⟩ := Cursor.reads_field hfk hc
    obtain ⟨c₄, hread, hc₄⟩ := hv hfv Json.blanks_nil Json.ends_textOfFields hc₃
    rw [List.reverse_cons, List.append_assoc] at hn hout
    -- The name is new, so that it is no duplicate.
    have hnew : found.lookup k = none := by
      rw [List.map_append, List.nodup_append] at hn
      have hk : k ∉ found.map Prod.fst := (List.nodup_cons.1 hn.2.1).1
      rw [List.lookup_eq_none_iff]
      intro e he
      exact bne_iff_ne.2 fun h => hk (List.mem_map.2 ⟨e, he, h.symm⟩)
    unfold textFields
    simp only [hkey, hstring, hfield, hnew, hcolon, hread]
    exact ih hn hout (by omega) hc₄

/-- Between braces, one container more is open. -/
lemma yields_braces {α : Type} {body : Nat → Cursor → Except Halt (α × Cursor)} {x : α}
    (hc : c.rest = (Json.object fs).chars ++ r)
    (h : ∀ c : Cursor, c.rest = textOfFields true fs ++ r →
      Yields (body (depth + 1) c) x ('\x7d' :: r)) :
    Yields (enter (depth + 2) c fun depth c => finish closeObject (body depth c)) x r := by
  rw [Json.chars_object] at hc
  obtain ⟨c₁, hbody, hc₁⟩ := h c.next (by rw [Cursor.rest_next, hc]; rfl)
  have hs := Cursor.skipSpace_of_blanks Json.blanks_nil (by decide) hc₁
  have hclose : (closeObject c₁).2 = none ∧ (closeObject c₁).1.rest = r := by
    unfold closeObject
    simp [Cursor.peek, hs]
  rw [enter, if_neg (by omega)]
  change Yields (finish closeObject (body (depth + 1) c.next)) x r
  rw [hbody]
  unfold finish
  dsimp only
  generalize closeObject c₁ = e at hclose ⊢
  obtain ⟨c₂, _⟩ := e
  obtain ⟨rfl, rfl⟩ := hclose
  exact Json.yields_ok.2 ⟨rfl, rfl⟩

lemma restores_table {item : Schema} (hs : Table.Sorted entries) (hp : es.Perm entries)
    (h : RestoresAll (depth + 1) (fun _ => some (ofText item)) es fs) :
    Restores (ofText (.table item)) (depth + 2) (.object fs) (.table entries) := by
  intro fuel c a r hf ha _ hc
  have htext := Json.chars_object fs
  have hlen : (textOfFields true fs).length ≤ fuel := by
    rw [htext] at hf
    exact Nat.le_of_succ_le hf
  unfold ofText
  rw [begin_of_blanks htext (by decide) ha hc, if_pos rfl]
  refine yields_braces (rest_skipSpace htext (by decide) ha hc) fun c hc => ?_
  exact Json.yields_map.2 ⟨_, yields_textTable h hlen hc, congrArg _ (hs.ofList_of_perm hp)⟩

lemma restores_record {name : String} {fields : List (String × Schema × Option Datum)}
    (hn : (entries.map Prod.fst).Nodup) (hp : es.Perm entries)
    (hassemble : assemble es.reverse (textFieldsOf fields) = .ok entries)
    (h : RestoresAll (depth + 1) (fun k => (findField k (textFieldsOf fields)).map Field.read)
      es fs) :
    Restores (ofText (.record name fields)) (depth + 2) (.object fs) (.record entries) := by
  intro fuel c a r hf ha _ hc
  have htext := Json.chars_object fs
  have hlen : (textOfFields true fs).length ≤ fuel := by
    rw [htext] at hf
    exact Nat.le_of_succ_le hf
  have hn' : ((es.reverse ++ []).map Prod.fst).Nodup := by
    rw [List.append_nil]
    exact ((es.reverse_perm.trans hp).map Prod.fst).nodup_iff.2 hn
  rw [← List.append_nil es.reverse] at hassemble
  unfold ofText textRecord
  rw [begin_of_blanks htext (by decide) ha hc, if_neg (by decide), if_pos rfl]
  refine yields_braces (rest_skipSpace htext (by decide) ha hc) fun c hc => ?_
  exact Json.yields_map.2 ⟨entries, yields_textFields h hn' hassemble hlen hc, rfl⟩

/-! ### Data that fit -/

/-- The datum is of the schema's shape, nests containers at most `depth` deep, and is not present
where it would be written as if it were absent. -/
inductive Fits : Nat → Schema → Datum → Prop
  | text {depth : Nat} (t : String) : Fits depth .text (.text t)
  | flag {depth : Nat} (b : Bool) : Fits depth .flag (.flag b)
  | word {depth : Nat} {name : String} {low high n : Int} (hn : low ≤ n ∧ n ≤ high)
      (hword : IsWord n) : Fits depth (.word name low high) (.integer n)
  | choice {depth : Nat} {name tag : String} {tags : List String} (h : tag ∈ tags) :
      Fits depth (.choice name tags) (.choice tag)
  | absent {depth : Nat} {item : Schema} : Fits depth (.optional item) .absent
  | present {depth : Nat} {item : Schema} {d : Datum} (h : Fits depth item d) (hd : d ≠ .absent) :
      Fits depth (.optional item) (.present d)
  | table {depth : Nat} {item : Schema} {entries : List (String × Datum)}
      (hs : Table.Sorted entries) (h : ∀ e ∈ entries, Fits depth item e.2) :
      Fits (depth + 1) (.table item) (.table entries)
  | record {depth : Nat} {name : String} {fields : List (String × Schema × Option Datum)}
      {entries : List (String × Datum)} (hn : (fields.map Prod.fst).Nodup)
      (hnames : fields.map Prod.fst = entries.map Prod.fst)
      (h : ∀ p ∈ fields.zip entries, Fits depth p.1.2.1 p.2.2) :
      Fits (depth + 1) (.record name fields) (.record entries)

lemma fieldsJson_eq_map (entries : List (String × Datum)) :
    Datum.fieldsJson entries = entries.map fun e => (e.1, e.2.toJson) := by
  induction entries with
  | nil => rfl
  | cons e entries ih =>
    obtain ⟨k, d⟩ := e
    rw [Datum.fieldsJson, ih, List.map_cons]

/-- A rearranged object has the fields of the datum, in some order. -/
lemma exists_of_rearranges (hn : (entries.map Prod.fst).Nodup)
    (hj : Rearranges (.ofFields (Datum.fieldsJson entries)) j) : ∃ es fs, j = .object fs ∧
      es.Perm entries ∧
        List.Forall₂ (fun e f => e.1 = f.1 ∧ Rearranges (Datum.toJson e.2) f.2) es fs := by
  rw [fieldsJson_eq_map] at hj
  have hperm : (Table.ofList (entries.map fun e => (e.1, e.2.toJson))).Perm
      (entries.map fun e => (e.1, e.2.toJson)) :=
    Table.perm_ofList (by rwa [List.map_map])
  cases hj with
  | @object _ gs fs hp h =>
    obtain ⟨es, rfl, hes⟩ : Relation.Comp (· = List.map _ ·) List.Perm gs entries := by
      rw [List.eq_map_comp_perm]
      exact hp.symm.trans hperm
    refine ⟨es, fs, rfl, hes, (List.forall₂_map_left_iff.1 h).imp ?_⟩
    rintro e f ⟨_, hv⟩
    exact ⟨rfl, hv⟩

/-- The text of a datum starts like one that is absent only if it is. -/
lemma Fits.exists_cons (h : Fits depth s d) (hj : Rearranges d.toJson j) : ∃ x t,
    j.chars = x :: t ∧ Cursor.isSpace x = false ∧ (x = 'n' → d = .absent) := by
  induction h with
  | text t =>
    rw [Datum.toJson] at hj
    cases hj
    obtain ⟨q, hq⟩ := (Json.quoted_stringText t).exists_cons
    exact ⟨_, q, by rw [Json.chars, hq], by decide, fun h => absurd h (by decide)⟩
  | flag b =>
    rw [Datum.toJson] at hj
    cases hj
    cases b with
    | true => exact ⟨'t', ['r', 'u', 'e'], rfl, by decide, fun h => absurd h (by decide)⟩
    | false => exact ⟨'f', ['a', 'l', 's', 'e'], rfl, by decide, fun h => absurd h (by decide)⟩
  | word _ hword =>
    rw [Datum.toJson] at hj
    cases hj
    obtain ⟨m, hm, ⟨htext, -⟩ | ⟨htext, -⟩⟩ := exists_magnitude hword
    · obtain ⟨x, t, hx, hdigit⟩ := hm.exists_cons
      refine ⟨x, t, htext.trans hx, Json.not_isSpace_of_isDigit hdigit, ?_⟩
      rintro rfl
      simp at hdigit
    · exact ⟨_, _, htext, by decide, fun h => absurd h (by decide)⟩
  | @choice _ _ tag =>
    rw [Datum.toJson] at hj
    cases hj
    obtain ⟨q, hq⟩ := (Json.quoted_stringText tag).exists_cons
    exact ⟨_, q, by rw [Json.chars, hq], by decide, fun h => absurd h (by decide)⟩
  | absent =>
    rw [Datum.toJson] at hj
    cases hj
    exact ⟨'n', ['u', 'l', 'l'], rfl, by decide, fun _ => rfl⟩
  | present _ hd ih =>
    rw [Datum.toJson] at hj
    obtain ⟨x, t, hx, hspace, hn⟩ := ih hj
    exact ⟨x, t, hx, hspace, fun h => absurd (hn h) hd⟩
  | table =>
    rw [Datum.toJson] at hj
    cases hj
    exact ⟨_, _, Json.chars_object _, by decide, fun h => absurd h (by decide)⟩
  | record =>
    rw [Datum.toJson] at hj
    cases hj
    exact ⟨_, _, Json.chars_object _, by decide, fun h => absurd h (by decide)⟩

/-! ### Reading them back -/

lemma textFieldsOf_eq_map (fs : List (String × Schema × Option Datum)) :
    textFieldsOf fs = fs.map fun f => ⟨f.1, ofText f.2.1, absence f.2.1 f.2.2, f.2.2⟩ := by
  induction fs with
  | nil => rfl
  | cons f fs ih =>
    obtain ⟨name, s, default⟩ := f
    rw [textFieldsOf, ih, List.map_cons]

/-- A record is made up of its fields in the order of declaration, in whatever order they were
found. -/
lemma assemble_of_lookup {ρ : Type} {fields : List (Field ρ)} {found : List (String × Datum)}
    (hnames : fields.map Field.name = entries.map Prod.fst)
    (h : ∀ e ∈ entries, found.lookup e.1 = some e.2) : assemble found fields = .ok entries := by
  induction entries generalizing fields with
  | nil =>
    obtain rfl := List.map_eq_nil_iff.1 hnames
    rfl
  | cons e entries ih =>
    obtain ⟨f, fields, rfl, hname, hnames⟩ := List.map_eq_cons_iff.1 hnames
    rw [assemble, hname, h e List.mem_cons_self]
    dsimp only [Option.some_or]
    rw [ih hnames fun e he => h e (List.mem_cons_of_mem _ he)]
    rfl

/-- Every entry of a record is that of a field. -/
lemma exists_mem_zip {fields : List (String × Schema × Option Datum)} {e : String × Datum}
    (hnames : fields.map Prod.fst = entries.map Prod.fst) (he : e ∈ entries) :
    ∃ f ∈ fields, f.1 = e.1 ∧ (f, e) ∈ fields.zip entries := by
  induction entries generalizing fields with
  | nil => cases he
  | cons e' entries ih =>
    obtain ⟨f, fields, rfl, hname, hnames⟩ := List.map_eq_cons_iff.1 hnames
    rcases List.mem_cons.1 he with rfl | he
    · exact ⟨f, List.mem_cons_self, hname, List.mem_cons_self⟩
    · obtain ⟨g, hg, hname, hzip⟩ := ih hnames he
      exact ⟨g, List.mem_cons_of_mem _ hg, hname, List.mem_cons_of_mem _ hzip⟩

lemma lookup_of_mem {k : String} (hn : (es.map Prod.fst).Nodup) (h : (k, d) ∈ es) :
    es.lookup k = some d := by
  induction es with
  | nil => cases h
  | cons e es ih =>
    obtain ⟨k', d'⟩ := e
    obtain ⟨hk', hn⟩ := List.nodup_cons.1 hn
    rcases List.mem_cons.1 h with he | h
    · cases he
      rw [List.lookup_cons, beq_self_eq_true]
    · have hne : k ≠ k' := fun he => hk' (List.mem_map.2 ⟨_, h, he⟩)
      rw [List.lookup_cons, beq_false_of_ne hne]
      exact ih hn h

/-- A datum that fits is read back from its text, whatever the order of fields in there. -/
theorem Fits.restores (h : Fits depth s d) (hj : Rearranges d.toJson j) :
    Restores (ofText s) (depth + 1) j d := by
  -- On the shape: what holds of the parts gives the entries of tables and the fields of records.
  induction h generalizing j with
  | text t =>
    rw [Datum.toJson] at hj
    cases hj
    exact restores_text t
  | flag b =>
    rw [Datum.toJson] at hj
    cases hj
    exact restores_flag b
  | word hn hword =>
    rw [Datum.toJson] at hj
    cases hj
    exact restores_word hn hword
  | choice h =>
    rw [Datum.toJson] at hj
    cases hj
    exact restores_choice h
  | absent =>
    rw [Datum.toJson] at hj
    cases hj
    rw [ofText]
    exact restores_absent
  | present h hd ih =>
    rw [Datum.toJson] at hj
    obtain ⟨x, t, hx, hspace, hn⟩ := h.exists_cons hj
    rw [ofText]
    exact restores_present (ih hj) hx hspace fun h => hd (hn h)
  | @table depth item entries hs _ ih =>
    rw [Datum.toJson] at hj
    obtain ⟨es, fs, rfl, hp, hes⟩ := exists_of_rearranges hs.nodup hj
    have hmem : ∀ e ∈ es, ∀ ⦃j⦄, Rearranges e.2.toJson j →
        Restores (ofText item) (depth + 1) j e.2 := fun e he j => ih e (hp.mem_iff.1 he)
    refine restores_table hs hp (((List.forall₂_and_left es fs).2 ⟨hmem, hes⟩).imp ?_)
    rintro e f ⟨hread, hname, hv⟩
    exact ⟨hname, _, rfl, hread hv⟩
  | @record depth name fields entries hn hnames _ ih =>
    rw [Datum.toJson] at hj
    rw [hnames] at hn
    obtain ⟨es, fs, rfl, hp, hes⟩ := exists_of_rearranges hn hj
    have hnames' : (textFieldsOf fields).map Field.name = entries.map Prod.fst := by
      rw [textFieldsOf_eq_map, List.map_map]
      exact hnames
    have hmem : ∀ e ∈ es, ∃ read,
        (findField e.1 (textFieldsOf fields)).map Field.read = some read ∧
          ∀ ⦃j⦄, Rearranges e.2.toJson j → Restores read (depth + 1) j e.2 := by
      intro e he
      obtain ⟨f, hf, hname, hzip⟩ := exists_mem_zip hnames (hp.mem_iff.1 he)
      have hfield : ⟨f.1, ofText f.2.1, absence f.2.1 f.2.2, f.2.2⟩ ∈ textFieldsOf fields := by
        rw [textFieldsOf_eq_map]
        exact List.mem_map_of_mem hf
      refine ⟨ofText f.2.1, ?_, fun j => ih (f, e) hzip⟩
      rw [← hname, findField_of_mem (hnames' ▸ hn) hfield]
      rfl
    have hassemble : assemble es.reverse (textFieldsOf fields) = .ok entries := by
      have hp' := es.reverse_perm.trans hp
      refine assemble_of_lookup hnames' fun e he => ?_
      exact lookup_of_mem ((hp'.map Prod.fst).nodup_iff.2 hn) (hp'.mem_iff.2 he)
    refine restores_record hn hp hassemble (((List.forall₂_and_left es fs).2 ⟨hmem, hes⟩).imp ?_)
    rintro e f ⟨⟨read, hfind, hread⟩, hname, hv⟩
    exact ⟨hname, read, hfind, hread hv⟩

/-- A text of one datum is read as this datum. -/
theorem Fits.parse (h : Fits 127 s d) (hj : Rearranges d.toJson j) : s.parse j.render = .ok d := by
  have htext : j.render.toList = j.chars := by rw [Json.render, String.toList_ofList]
  have hf : j.chars.length ≤ Json.fuelFor j.chars := by
    rw [Json.fuelFor]
    omega
  obtain ⟨c, hread, hc⟩ := h.restores hj (c := .ofString j.render) hf Json.blanks_nil Json.ends_nil
    (by rw [Cursor.ofString, htext, List.append_nil, List.nil_append])
  have hfinish : c.finish = .ok () := Cursor.finish_iff.2 (hc ▸ Json.blanks_nil)
  unfold Schema.parse Json.depthLimit
  rw [htext, hread]
  dsimp only
  rw [hfinish]
  rfl

end LiveTelemetry.Schema
