import SqlCluster.Proofs.Json.Nested
import SqlCluster.Proofs.Number.Row
import SqlCluster.Proofs.Statement.Refusal
import SqlCluster.Proofs.Text.Base64
/-!
What a batch is on the wire. A reader of JSON finds one entry a statement in it, with the template
and what carries the arguments.
-/
namespace SqlCluster

open Text Outcome Number

mutual

/-- Is the value made of such values alone as JSON carries without loss? -/
def Value.isSendable : Value → Bool
  | .float _ => false
  | .decimal _ => false
  | .set _ => false
  | .complex => false
  | .object => false
  | .list xs => areSendable xs
  | .tuple xs => areSendable xs
  | .map es => areSendableEntries es
  | _ => true

def Value.areSendable : List Value → Bool
  | [] => true
  | x :: xs => isSendable x && areSendable xs

def Value.areSendableEntries : List (String × Value) → Bool
  | [] => true
  | (_, x) :: es => isSendable x && areSendableEntries es

end

mutual

/-- The JSON that a value becomes: its own where JSON has such values, with tuples as lists, and
else a text that says what the value is. -/
def Carries : Value → Json → Prop
  | .null, j => j = .null
  | .bool b, j => j = .bool b
  | .int n, j => j = .int n
  | .text s, j => j = .text s
  | .level l, j => j = .text l.name
  | .bytes _ data, j => ∃ s, j = .text s ∧ Base64.decode? s.toList = some data
  | .date d, j => j = .text (String.ofList d.chars)
  | .time c, j => j = .text (String.ofList c.chars)
  | .moment m, j => j = .text (String.ofList m.iso)
  | .uuid u, j => j = .text u.text
  | .list xs, j => ∃ js, j = .list js ∧ CarriesItems xs js
  | .tuple xs, j => ∃ js, j = .list js ∧ CarriesItems xs js
  | .map es, j => ∃ ms, j = .map ms ∧ CarriesEntries es ms
  | _, _ => False

def CarriesItems : List Value → List Json → Prop
  | [], js => js = []
  | x :: xs, js => ∃ k ks, js = k :: ks ∧ Carries x k ∧ CarriesItems xs ks

def CarriesEntries : List (String × Value) → List (String × Json) → Prop
  | [], ms => ms = []
  | (key, x) :: es, ms => ∃ k ks, ms = (key, k) :: ks ∧ Carries x k ∧ CarriesEntries es ks

end

theorem Value.areSendable_iff {xs : List Value} :
    Value.areSendable xs = true ↔ ∀ x ∈ xs, x.isSendable = true := by
  induction xs with
  | nil => simp [Value.areSendable]
  | cons x xs ih => rw [Value.areSendable, Bool.and_eq_true, ih, List.forall_mem_cons]

theorem Value.areSendableEntries_iff {es : List (String × Value)} :
    Value.areSendableEntries es = true ↔ ∀ e ∈ es, e.2.isSendable = true := by
  induction es with
  | nil => simp [Value.areSendableEntries]
  | cons e es ih => rw [Value.areSendableEntries, Bool.and_eq_true, ih, List.forall_mem_cons]

theorem Value.isSendable_of_holds {v u : Value} (hu : v.Holds u) (h : v.isSendable = true) :
    u.isSendable = true := by
  induction hu with
  | self v => exact h
  | list hm _ ih => exact ih (Value.areSendable_iff.mp h _ hm)
  | tuple hm _ ih => exact ih (Value.areSendable_iff.mp h _ hm)
  | map hm _ ih => exact ih (Value.areSendableEntries_iff.mp h _ hm)

mutual

theorem carries_ofValue : ∀ {v : Value} {room : Nat} {j : Json}, v.isSendable = true →
    Json.ofValue room v = .ok j → Carries v j ∧ j.Floatless
  | .null, _, _, _, rfl => ⟨rfl, trivial⟩
  | .bool _, _, _, _, rfl => ⟨rfl, trivial⟩
  | .text _, _, _, _, rfl => ⟨rfl, trivial⟩
  | .level _, _, _, _, rfl => ⟨rfl, trivial⟩
  | .bytes _ data, _, _, _, rfl => by
      refine ⟨⟨_, rfl, ?_⟩, trivial⟩
      rw [String.toList_ofList, Base64.decode?_encode]
  | .date _, _, _, _, rfl => ⟨rfl, trivial⟩
  | .time _, _, _, _, rfl => ⟨rfl, trivial⟩
  | .moment _, _, _, _, rfl => ⟨rfl, trivial⟩
  | .uuid _, _, _, _, rfl => ⟨rfl, trivial⟩
  | .int n, _, _, _, h => by
      obtain ⟨-, rfl⟩ := Json.ofInt_eq_ok.mp h
      exact ⟨rfl, trivial⟩
  | .list xs, _, _, h, hj => by
      obtain ⟨js, hjs, rfl⟩ := map_eq_ok.mp hj
      obtain ⟨_, -, hjs⟩ := Json.inside_eq_ok.mp hjs
      obtain ⟨hc, hf⟩ := carries_ofValues h hjs
      exact ⟨⟨js, rfl, hc⟩, hf⟩
  | .tuple xs, _, _, h, hj => by
      obtain ⟨js, hjs, rfl⟩ := map_eq_ok.mp hj
      obtain ⟨_, -, hjs⟩ := Json.inside_eq_ok.mp hjs
      obtain ⟨hc, hf⟩ := carries_ofValues h hjs
      exact ⟨⟨js, rfl, hc⟩, hf⟩
  | .map es, _, _, h, hj => by
      obtain ⟨ms, hms, rfl⟩ := map_eq_ok.mp hj
      obtain ⟨_, -, hms⟩ := Json.inside_eq_ok.mp hms
      obtain ⟨hc, hf⟩ := carries_ofEntries h hms
      exact ⟨⟨ms, rfl, hc⟩, hf⟩

theorem carries_ofValues : ∀ {xs : List Value} {room : Nat} {js : List Json},
    Value.areSendable xs = true → Json.ofValues room xs = .ok js →
      CarriesItems xs js ∧ Json.FloatlessItems js
  | [], _, _, _, rfl => ⟨rfl, trivial⟩
  | x :: xs, _, _, h, hw => by
      rw [Value.areSendable, Bool.and_eq_true] at h
      obtain ⟨j, hj, hw⟩ := bind_eq_ok.mp hw
      obtain ⟨js, hjs, hw⟩ := bind_eq_ok.mp hw
      cases hw
      obtain ⟨hc, hf⟩ := carries_ofValue h.1 hj
      obtain ⟨hcs, hfs⟩ := carries_ofValues h.2 hjs
      exact ⟨⟨j, js, rfl, hc, hcs⟩, hf, hfs⟩

theorem carries_ofEntries : ∀ {es : List (String × Value)} {room : Nat}
    {ms : List (String × Json)}, Value.areSendableEntries es = true →
      Json.ofEntries room es = .ok ms → CarriesEntries es ms ∧ Json.FloatlessMembers ms
  | [], _, _, _, rfl => ⟨rfl, trivial⟩
  | (key, x) :: es, _, _, h, hw => by
      rw [Value.areSendableEntries, Bool.and_eq_true] at h
      obtain ⟨j, hj, hw⟩ := bind_eq_ok.mp hw
      obtain ⟨ms, hms, hw⟩ := bind_eq_ok.mp hw
      cases hw
      obtain ⟨hc, hf⟩ := carries_ofValue h.1 hj
      obtain ⟨hcs, hfs⟩ := carries_ofEntries h.2 hms
      exact ⟨⟨j, ms, rfl, hc, hcs⟩, hf, hfs⟩

end

mutual

def Value.native? : Value → Option Json
  | .null => some .null
  | .bool b => some (.bool b)
  | .int n => some (.int n)
  | .text s => some (.text s)
  | .level l => some (.text l.name)
  | .list xs => (natives? xs).map .list
  | .tuple xs => (natives? xs).map .list
  | .map es => (nativeEntries? es).map .map
  | _ => none

def Value.natives? : List Value → Option (List Json)
  | [] => some []
  | x :: xs => do
      let j ← native? x
      let js ← natives? xs
      return j :: js

def Value.nativeEntries? : List (String × Value) → Option (List (String × Json))
  | [] => some []
  | (key, x) :: es => do
      let j ← native? x
      let ms ← nativeEntries? es
      return (key, j) :: ms

end

mutual

theorem eq_of_native : ∀ {v : Value} {j k : Json}, Carries v j → v.native? = some k → j = k
  | .null, _, _, hc, hk => hc.trans (Option.some.inj hk)
  | .bool _, _, _, hc, hk => hc.trans (Option.some.inj hk)
  | .int _, _, _, hc, hk => hc.trans (Option.some.inj hk)
  | .text _, _, _, hc, hk => hc.trans (Option.some.inj hk)
  | .level _, _, _, hc, hk => hc.trans (Option.some.inj hk)
  | .list xs, _, _, hc, hk => by
      obtain ⟨js, rfl, hc⟩ := hc
      obtain ⟨ks, hks, rfl⟩ := Option.map_eq_some_iff.mp hk
      rw [eq_of_natives hc hks]
  | .tuple xs, _, _, hc, hk => by
      obtain ⟨js, rfl, hc⟩ := hc
      obtain ⟨ks, hks, rfl⟩ := Option.map_eq_some_iff.mp hk
      rw [eq_of_natives hc hks]
  | .map es, _, _, hc, hk => by
      obtain ⟨ms, rfl, hc⟩ := hc
      obtain ⟨ks, hks, rfl⟩ := Option.map_eq_some_iff.mp hk
      rw [eq_of_nativeEntries hc hks]

theorem eq_of_natives : ∀ {xs : List Value} {js ks : List Json}, CarriesItems xs js →
    Value.natives? xs = some ks → js = ks
  | [], _, _, hc, hk => hc.trans (Option.some.inj hk)
  | x :: xs, _, _, hc, hk => by
      obtain ⟨j, js, rfl, hj, hjs⟩ := hc
      simp only [Value.natives?, Option.bind_eq_bind, Option.bind_eq_some_iff, Option.pure_def,
        Option.some.injEq] at hk
      obtain ⟨k, hk, ks, hks, rfl⟩ := hk
      rw [eq_of_native hj hk, eq_of_natives hjs hks]

theorem eq_of_nativeEntries : ∀ {es : List (String × Value)} {ms ks : List (String × Json)},
    CarriesEntries es ms → Value.nativeEntries? es = some ks → ms = ks
  | [], _, _, hc, hk => hc.trans (Option.some.inj hk)
  | (key, x) :: es, _, _, hc, hk => by
      obtain ⟨j, ms, rfl, hj, hms⟩ := hc
      simp only [Value.nativeEntries?, Option.bind_eq_bind, Option.bind_eq_some_iff,
        Option.pure_def, Option.some.injEq] at hk
      obtain ⟨k, hk, ks, hks, rfl⟩ := hk
      rw [eq_of_native hj hk, eq_of_nativeEntries hms hks]

end

theorem forall₂_of_carriesItems {xs : List Value} {js : List Json} (h : CarriesItems xs js) :
    List.Forall₂ Carries xs js := by
  induction xs generalizing js with
  | nil =>
      obtain rfl := h
      exact .nil
  | cons x xs ih =>
      obtain ⟨k, ks, rfl, hx, hxs⟩ := h
      exact .cons hx (ih hxs)

/-- Two values that are equal if both are values that JSON has itself. -/
def SameNative (v w : Value) : Prop := ∀ j k, v.native? = some j → w.native? = some k → j = k

theorem sameNative_of_carries {xs ys : List Value} {js : List Json}
    (hx : List.Forall₂ Carries xs js) (hy : List.Forall₂ Carries ys js) :
    List.Forall₂ SameNative xs ys := by
  induction hx generalizing ys with
  | nil =>
      cases hy
      exact .nil
  | cons hv _ ih =>
      cases hy with
      | cons hw hws =>
          refine .cons ?_ (ih hws)
          intro j k hj hk
          rw [← eq_of_native hv hj, ← eq_of_native hw hk]

def Template.isText : Template → Bool
  | .text _ => true
  | .level _ => true
  | _ => false

namespace Item

def sql : Item → String
  | .plain template => String.ofList template.chars
  | .prepared s => String.ofList s.template.chars
  | .other _ => ""

def parameters : Item → List Value
  | .prepared s => s.parameters
  | _ => []

def isSendable : Item → Bool
  | .plain template => template.isText
  | .prepared s => s.template.isText && Value.areSendable s.parameters
  | .other _ => false

/-- The entry for an item: its template and what carries its arguments. -/
def Entry (i : Item) (e : Json) : Prop :=
  ∃ ws, e = .list (.text i.sql :: ws) ∧ List.Forall₂ Carries i.parameters ws

/-- Two items with the same template and with as many arguments, equal as far as JSON tells. -/
def Alike (i o : Item) : Prop :=
  i.sql = o.sql ∧ List.Forall₂ SameNative i.parameters o.parameters

theorem alike_of_entries {i o : Item} {e : Json} (hi : i.Entry e) (ho : o.Entry e) : i.Alike o := by
  obtain ⟨ws, rfl, hi⟩ := hi
  obtain ⟨us, he, ho⟩ := ho
  obtain ⟨hsql, rfl⟩ := List.cons.inj (Json.list.inj he)
  exact ⟨Json.text.inj hsql, sameNative_of_carries hi ho⟩

theorem alike_of_batches {items others : List Item} {es : List Json}
    (hi : List.Forall₂ Entry items es) (ho : List.Forall₂ Entry others es) :
    List.Forall₂ Alike items others := by
  induction hi generalizing others with
  | nil =>
      cases ho
      exact .nil
  | cons he _ ih =>
      cases ho with
      | cons hf hfs => exact .cons (alike_of_entries he hf) (ih hfs)

theorem ofValue_template {t : Template} (h : t.isText = true) (room : Nat) :
    Json.ofValue room t.toValue = .ok (.text (String.ofList t.chars)) := by
  cases t with
  | text s => simp only [Template.toValue, Template.chars, Json.ofValue, String.ofList_toList]
  | level l => simp only [Template.toValue, Template.chars, Json.ofValue, String.ofList_toList]
  | list xs => cases h
  | tuple xs => cases h

theorem isSendable_iff {i : Item} : i.isSendable = true ↔
    ∃ s, i.statement? = .ok s ∧ s.template.isText = true ∧ Value.areSendable s.parameters = true ∧
      i.sql = String.ofList s.template.chars ∧ i.parameters = s.parameters := by
  cases i with
  | plain t => simp [isSendable, statement?, Value.areSendable, sql, parameters]
  | prepared s => simp [isSendable, statement?, sql, parameters]
  | other v => simp [isSendable, statement?]

theorem entry_of_wire {room : Nat} {i : Item} {e : Json} (h : i.isSendable = true)
    (hw : i.wire? room = .ok e) : i.Entry e ∧ e.Floatless := by
  obtain ⟨s, hs, htext, hp, hsql, hparams⟩ := isSendable_iff.mp h
  obtain ⟨t, js, ht, hjs, rfl⟩ := wire?_eq_ok hw
  rw [hs] at ht
  cases ht
  rw [Statement.values] at hjs
  obtain ⟨j, hj, hjs⟩ := bind_eq_ok.mp hjs
  obtain ⟨ws, hws, hcons⟩ := bind_eq_ok.mp hjs
  cases hcons
  rw [ofValue_template htext] at hj
  cases hj
  obtain ⟨hc, hf⟩ := carries_ofValues hp hws
  rw [Entry, hsql, hparams]
  exact ⟨⟨ws, rfl, forall₂_of_carriesItems hc⟩, trivial, hf⟩

theorem entries_of_wires {room : Nat} {items : List Item} {es : List Json}
    (h : items.all isSendable = true)
    (hw : List.Forall₂ (fun i e => i.wire? room = .ok e) items es) :
    List.Forall₂ Entry items es ∧ Json.FloatlessItems es := by
  induction hw with
  | nil => exact ⟨.nil, trivial⟩
  | cons hi _ ih =>
      rw [List.all_cons, Bool.and_eq_true] at h
      obtain ⟨he, hf⟩ := entry_of_wire h.1 hi
      obtain ⟨hes, hfs⟩ := ih h.2
      exact ⟨.cons he hes, hf, hfs⟩

theorem entries_of_encodeAll {room : Nat} {items : List Item} {cs : List Char}
    (h : items.all isSendable = true) (hcs : encodeAll room items = .ok cs) :
    ∃ es, cs = Json.render (.list es) ∧ List.Forall₂ Entry items es ∧ (Json.list es).Floatless := by
  obtain ⟨es, rfl, hw⟩ := wires_of_encodeAll hcs
  obtain ⟨he, hf⟩ := entries_of_wires h hw
  exact ⟨es, rfl, he, hf⟩

/-- The arguments that can be written: no integer in them has too many digits, and none of them
holds lists and objects that stand too deep in one another. -/
def IsWithin (room : Nat) (i : Item) : Prop :=
  ∀ v ∈ i.parameters, v.nesting ≤ room ∧
    ∀ n, v.Holds (.int n) → Literal.isWritable n = true

theorem isFormless_of_sendable {u : Value} (h : u.isSendable = true) (hf : u.isFormless = true) :
    ∃ n, u = .int n ∧ Literal.isWritable n = false := by
  cases u with
  | int n => exact ⟨n, rfl, by simpa [Value.isFormless] using hf⟩
  | float d => cases h
  | decimal d => cases h
  | set xs => cases h
  | complex => cases h
  | object => cases h
  | _ => cases hf

theorem isFormed_iff {v : Value} (h : v.isSendable = true) :
    v.IsFormed ↔ ∀ n, v.Holds (.int n) → Literal.isWritable n = true := by
  constructor
  · intro hf n hn
    simpa [Value.isFormless] using hf _ hn
  · intro hint u hu
    rw [Bool.eq_false_iff]
    intro hf
    obtain ⟨n, rfl, hn⟩ := isFormless_of_sendable (Value.isSendable_of_holds hu h) hf
    rw [hint n hu] at hn
    cases hn

theorem isFormed_template {t : Template} (h : t.isText = true) :
    t.toValue.IsFormed ∧ t.toValue.nesting = 0 := by
  cases t with
  | text s => exact ⟨fun _ hu => by cases hu; rfl, rfl⟩
  | level l => exact ⟨fun _ hu => by cases hu; rfl, rfl⟩
  | list xs => cases h
  | tuple xs => cases h

theorem not_isRefused_iff {room : Nat} {i : Item} (h : i.isSendable = true) :
    ¬i.IsRefused room ↔ i.IsWithin room := by
  obtain ⟨s, hs, htext, hp, -, hparams⟩ := isSendable_iff.mp h
  obtain ⟨hformed, hnesting⟩ := isFormed_template htext
  rw [IsWithin, hparams]
  constructor
  · intro hr v hv
    have hvalue : v ∈ s.values := List.mem_cons_of_mem _ hv
    refine ⟨Nat.not_lt.mp fun hd => hr (.deep hs hvalue hd), ?_⟩
    refine (isFormed_iff (Value.areSendable_iff.mp hp v hv)).mp fun u hu => ?_
    rw [Bool.eq_false_iff]
    exact fun hf => hr (.formless hs hvalue hu hf)
  · intro hw hr
    cases hr with
    | stranger v => cases hs
    | formless ht hv hu hf =>
        rw [hs] at ht
        cases ht
        rcases List.mem_cons.mp hv with rfl | hv
        · exact Bool.eq_false_iff.mp (hformed _ hu) hf
        · have hv' := (isFormed_iff (Value.areSendable_iff.mp hp _ hv)).mpr (hw _ hv).2
          exact Bool.eq_false_iff.mp (hv' _ hu) hf
    | deep ht hv hd =>
        rw [hs] at ht
        cases ht
        rcases List.mem_cons.mp hv with rfl | hv
        · rw [hnesting] at hd
          exact Nat.not_lt_zero _ hd
        · exact Nat.not_le.mpr hd (hw _ hv).1

/-- A batch whose arguments can be written is sent in printable ASCII and read back entry by entry,
and what is sent tells two batches apart. -/
theorem strict?_encodeAll (room : Nat) {items : List Item} (h : items.all isSendable = true) :
    ((∃ cs, encodeAll room items = .ok cs) ↔ ∀ i ∈ items, i.IsWithin room) ∧
      ∀ cs, encodeAll room items = .ok cs →
        ∃ es, (∀ b ∈ Utf8.encode cs, 0x20 ≤ b.toNat ∧ b.toNat ≤ 0x7E) ∧
          Json.strict? (Utf8.encode cs) = some (.list es) ∧ List.Forall₂ Entry items es ∧
          ∀ others ds, others.all isSendable = true → encodeAll room others = .ok ds →
            Utf8.encode ds = Utf8.encode cs → List.Forall₂ Alike items others := by
  constructor
  · rw [encodeAll_ok_iff]
    exact forall₂_congr fun i hi => not_isRefused_iff (List.all_eq_true.mp h i hi)
  · intro cs hcs
    obtain ⟨es, rfl, he, hf⟩ := entries_of_encodeAll h hcs
    refine ⟨es, Utf8.plain_encode (Json.plain_render hf), Json.strict?_render hf, he, ?_⟩
    intro others ds ho hds hsame
    obtain ⟨us, rfl, hu, hg⟩ := entries_of_encodeAll ho hds
    have hread := Json.strict?_render hg
    rw [hsame, Json.strict?_render hf] at hread
    obtain rfl := Json.list.inj (Option.some.inj hread)
    exact alike_of_batches he hu

def mixedBatch : List Item :=
  [.plain (.text "SELECT 1"),
    .prepared ⟨.text "INSERT INTO t VALUES(?, ?, ?, ?)",
      [.text "\"a\\\nß😀", .bytes .growing [0, 255], .tuple [.int (-70), .null],
        .map [("k", .uuid ⟨5⟩)]]⟩]

theorem mixedBatch_read :
    mixedBatch.all isSendable = true ∧ ∃ cs, encodeAll 1 mixedBatch = .ok cs ∧
      ∃ es, (∀ b ∈ Utf8.encode cs, 0x20 ≤ b.toNat ∧ b.toNat ≤ 0x7E) ∧
        Json.strict? (Utf8.encode cs) = some (.list es) ∧ List.Forall₂ Entry mixedBatch es ∧
        ∀ others ds, others.all isSendable = true → encodeAll 1 others = .ok ds →
          Utf8.encode ds = Utf8.encode cs → List.Forall₂ Alike mixedBatch others :=
  ⟨rfl, _, rfl, (strict?_encodeAll 1 rfl).2 _ rfl⟩

/-- An integer with one digit too many. -/
def longIntegerBatch : List Item :=
  [.prepared ⟨.text "SELECT ?", [.int ↑(10 ^ Literal.maxIntDigits : Nat)]⟩]

theorem longIntegerBatch_refused :
    longIntegerBatch.all isSendable = true ∧
      ¬∃ room cs, encodeAll room longIntegerBatch = .ok cs := by
  refine ⟨rfl, ?_⟩
  rintro ⟨room, hcs⟩
  have hw := encodeAll_ok_iff.mp hcs _ List.mem_cons_self
  refine hw (.formless rfl (List.mem_cons_of_mem _ List.mem_cons_self) (.self _) ?_)
  have hlong : ¬((10 ^ Literal.maxIntDigits : Nat) : Int).natAbs < 10 ^ Literal.maxIntDigits := by
    rw [Int.natAbs_natCast]
    exact Nat.lt_irrefl _
  rw [← Literal.isWritable_iff, Bool.not_eq_true] at hlong
  rw [Value.isFormless, hlong, Bool.not_false]

end Item

end SqlCluster
