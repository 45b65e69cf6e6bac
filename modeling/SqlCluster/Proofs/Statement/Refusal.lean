import Mathlib.Data.List.Forall2
import SqlCluster.Proofs.Outcome
import SqlCluster.Statement.Batch
/-!
Batches that cannot be written. A value is refused for what stands in it at any depth, or for
standing deeper than there is room for, and a batch for any one of its items; every other batch has
an encoding, item by item.
-/
namespace SqlCluster

open Outcome Number

namespace Value

/-- The values that have no JSON form themselves: sets, complex numbers, plain objects, the decimals
that are no number to convert, and the integers of too many digits. -/
def isFormless : Value → Bool
  | .set _ => true
  | .complex => true
  | .object => true
  | .decimal d => d.toDouble?.isNone
  | .int n => !Literal.isWritable n
  | _ => false

/-- A value stands in another one, at whatever depth, or is it. -/
inductive Holds : Value → Value → Prop
  | self (v : Value) : Holds v v
  | list {xs : List Value} {x v : Value} (hm : x ∈ xs) (h : Holds x v) : Holds (.list xs) v
  | tuple {xs : List Value} {x v : Value} (hm : x ∈ xs) (h : Holds x v) : Holds (.tuple xs) v
  | map {es : List (String × Value)} {e : String × Value} {v : Value} (hm : e ∈ es)
      (h : Holds e.2 v) : Holds (.map es) v

def IsFormed (v : Value) : Prop := ∀ u, v.Holds u → u.isFormless = false

mutual

/-- How many lists and objects stand in one another, at the deepest place. -/
def nesting : Value → Nat
  | .list xs => nestings xs + 1
  | .tuple xs => nestings xs + 1
  | .map es => nestingEntries es + 1
  | _ => 0

def nestings : List Value → Nat
  | [] => 0
  | x :: xs => max (nesting x) (nestings xs)

def nestingEntries : List (String × Value) → Nat
  | [] => 0
  | (_, x) :: es => max (nesting x) (nestingEntries es)

end

theorem nestings_le_iff {xs : List Value} {n : Nat} :
    nestings xs ≤ n ↔ ∀ x ∈ xs, x.nesting ≤ n := by
  induction xs with
  | nil => simp [nestings]
  | cons x xs ih => rw [nestings, Nat.max_le, ih, List.forall_mem_cons]

end Value

namespace Json

variable {room : Nat} {α : Type} {write : Nat → Except EncodeError α}

theorem ofInt_eq_ok {n : Int} {j : Json} :
    ofInt n = .ok j ↔ Literal.isWritable n = true ∧ j = .int n := by
  cases h : Literal.isWritable n with
  | false => simp [ofInt, h]
  | true => simp [ofInt, h, eq_comm]

theorem inside_eq_ok {a : α} : inside room write = .ok a ↔ ∃ r, room = r + 1 ∧ write r = .ok a := by
  cases room with
  | zero => simp [inside]
  | succ r => simp [inside]

theorem inside_ok {depth : Nat} (hd : depth + 1 ≤ room)
    (h : ∀ r, depth ≤ r → ∃ a, write r = .ok a) : ∃ a, inside room write = .ok a := by
  obtain ⟨r, rfl⟩ := Nat.exists_eq_add_of_le' (Nat.le_of_add_left_le hd)
  exact h r (Nat.le_of_succ_le_succ hd)

theorem inside_error (h : ∀ r, ∃ e, write r = .error e) : ∃ e, inside room write = .error e := by
  cases room with
  | zero => exact ⟨.tooDeep, rfl⟩
  | succ r => exact h r

theorem ofValue_formless {v : Value} (h : v.isFormless = true) : ∃ e, ofValue room v = .error e := by
  cases v with
  | set xs => exact ⟨_, rfl⟩
  | complex => exact ⟨_, rfl⟩
  | object => exact ⟨_, rfl⟩
  | decimal d =>
      have hn : d.toDouble? = none := Option.isNone_iff_eq_none.mp h
      exact ⟨.signaling, by rw [ofValue, ofDecimal, hn]⟩
  | int n =>
      have hn : ¬Literal.isWritable n = true := by simpa [Value.isFormless] using h
      exact ⟨.tooManyDigits, by rw [ofValue, ofInt, if_neg hn]⟩
  | _ => cases h

theorem ofValues_error {xs : List Value} {x : Value} {e : EncodeError} (hm : x ∈ xs)
    (h : ofValue room x = .error e) : ∃ e, ofValues room xs = .error e :=
  error_of_mem (f := ofValue room) (g := ofValues room) (k := fun _ j js => j :: js)
    (fun _ _ => rfl) hm h

theorem ofEntries_error {es : List (String × Value)} {entry : String × Value} {e : EncodeError}
    (hm : entry ∈ es) (h : ofValue room entry.2 = .error e) : ∃ e, ofEntries room es = .error e :=
  error_of_mem (f := fun e => ofValue room e.2) (g := ofEntries room)
    (k := fun e j ms => (e.1, j) :: ms) (fun _ _ => rfl) hm h

theorem ofValue_error {v u : Value} (h : v.Holds u) (hu : u.isFormless = true) (room : Nat) :
    ∃ e, ofValue room v = .error e := by
  induction h generalizing room with
  | self v => exact ofValue_formless hu
  | list hm _ ih =>
      obtain ⟨e, he⟩ := inside_error fun r => (ih hu r).elim fun _ he => ofValues_error hm he
      exact ⟨e, by rw [ofValue, he]; rfl⟩
  | tuple hm _ ih =>
      obtain ⟨e, he⟩ := inside_error fun r => (ih hu r).elim fun _ he => ofValues_error hm he
      exact ⟨e, by rw [ofValue, he]; rfl⟩
  | map hm _ ih =>
      obtain ⟨e, he⟩ := inside_error fun r => (ih hu r).elim fun _ he => ofEntries_error hm he
      exact ⟨e, by rw [ofValue, he]; rfl⟩

mutual

theorem nesting_le_of_ok : ∀ {v : Value} {room : Nat} {j : Json}, ofValue room v = .ok j →
    v.nesting ≤ room
  | .list xs, _, _, h => by
      obtain ⟨js, hjs, -⟩ := map_eq_ok.mp h
      obtain ⟨r, rfl, hjs⟩ := inside_eq_ok.mp hjs
      exact Nat.succ_le_succ (nestings_le_of_ok hjs)
  | .tuple xs, _, _, h => by
      obtain ⟨js, hjs, -⟩ := map_eq_ok.mp h
      obtain ⟨r, rfl, hjs⟩ := inside_eq_ok.mp hjs
      exact Nat.succ_le_succ (nestings_le_of_ok hjs)
  | .map es, _, _, h => by
      obtain ⟨ms, hms, -⟩ := map_eq_ok.mp h
      obtain ⟨r, rfl, hms⟩ := inside_eq_ok.mp hms
      exact Nat.succ_le_succ (nestingEntries_le_of_ok hms)
  | .null, _, _, _ => Nat.zero_le _
  | .bool _, _, _, _ => Nat.zero_le _
  | .int _, _, _, _ => Nat.zero_le _
  | .float _, _, _, _ => Nat.zero_le _
  | .text _, _, _, _ => Nat.zero_le _
  | .level _, _, _, _ => Nat.zero_le _
  | .bytes _ _, _, _, _ => Nat.zero_le _
  | .date _, _, _, _ => Nat.zero_le _
  | .time _, _, _, _ => Nat.zero_le _
  | .moment _, _, _, _ => Nat.zero_le _
  | .uuid _, _, _, _ => Nat.zero_le _
  | .decimal _, _, _, _ => Nat.zero_le _
  | .set _, _, _, _ => Nat.zero_le _
  | .complex, _, _, _ => Nat.zero_le _
  | .object, _, _, _ => Nat.zero_le _

theorem nestings_le_of_ok : ∀ {xs : List Value} {room : Nat} {js : List Json},
    ofValues room xs = .ok js → Value.nestings xs ≤ room
  | [], _, _, _ => Nat.zero_le _
  | x :: xs, _, _, h => by
      obtain ⟨j, hj, h⟩ := bind_eq_ok.mp h
      obtain ⟨js, hjs, -⟩ := bind_eq_ok.mp h
      exact Nat.max_le.mpr ⟨nesting_le_of_ok hj, nestings_le_of_ok hjs⟩

theorem nestingEntries_le_of_ok : ∀ {es : List (String × Value)} {room : Nat}
    {ms : List (String × Json)}, ofEntries room es = .ok ms → Value.nestingEntries es ≤ room
  | [], _, _, _ => Nat.zero_le _
  | (_, x) :: es, _, _, h => by
      obtain ⟨j, hj, h⟩ := bind_eq_ok.mp h
      obtain ⟨ms, hms, -⟩ := bind_eq_ok.mp h
      exact Nat.max_le.mpr ⟨nesting_le_of_ok hj, nestingEntries_le_of_ok hms⟩

end

theorem ofValue_deep {v : Value} (h : room < v.nesting) : ∃ e, ofValue room v = .error e := by
  cases hv : ofValue room v with
  | error e => exact ⟨e, rfl⟩
  | ok j => exact absurd (nesting_le_of_ok hv) (Nat.not_le.mpr h)

mutual

theorem ofValue_formed : ∀ {v : Value} {room : Nat}, v.IsFormed → v.nesting ≤ room →
    ∃ j, ofValue room v = .ok j
  | .null, _, _, _ => ⟨_, rfl⟩
  | .bool _, _, _, _ => ⟨_, rfl⟩
  | .float _, _, _, _ => ⟨_, rfl⟩
  | .text _, _, _, _ => ⟨_, rfl⟩
  | .level _, _, _, _ => ⟨_, rfl⟩
  | .bytes _ _, _, _, _ => ⟨_, rfl⟩
  | .date _, _, _, _ => ⟨_, rfl⟩
  | .time _, _, _, _ => ⟨_, rfl⟩
  | .moment _, _, _, _ => ⟨_, rfl⟩
  | .uuid _, _, _, _ => ⟨_, rfl⟩
  | .int n, _, h, _ => by
      have hn : Literal.isWritable n = true := by simpa [Value.isFormless] using h _ (.self _)
      exact ⟨.int n, by rw [ofValue, ofInt, if_pos hn]⟩
  | .decimal d, _, h, _ => by
      have hd : d.toDouble?.isNone = false := h _ (.self _)
      cases hx : d.toDouble? with
      | none =>
          rw [hx] at hd
          cases hd
      | some x => exact ⟨.float x, by rw [ofValue, ofDecimal, hx]⟩
  | .list xs, _, h, hd => by
      obtain ⟨js, hj⟩ := inside_ok hd fun _ =>
        ofValues_formed fun x hx u hu => h u (.list hx hu)
      exact ⟨.list js, by rw [ofValue, hj]; rfl⟩
  | .tuple xs, _, h, hd => by
      obtain ⟨js, hj⟩ := inside_ok hd fun _ =>
        ofValues_formed fun x hx u hu => h u (.tuple hx hu)
      exact ⟨.list js, by rw [ofValue, hj]; rfl⟩
  | .map es, _, h, hd => by
      obtain ⟨ms, hm⟩ := inside_ok hd fun _ =>
        ofEntries_formed fun e he u hu => h u (.map he hu)
      exact ⟨.map ms, by rw [ofValue, hm]; rfl⟩
  | .set _, _, h, _ => nomatch h _ (.self _)
  | .complex, _, h, _ => nomatch h _ (.self _)
  | .object, _, h, _ => nomatch h _ (.self _)

theorem ofValues_formed : ∀ {xs : List Value} {room : Nat}, (∀ x ∈ xs, x.IsFormed) →
    Value.nestings xs ≤ room → ∃ js, ofValues room xs = .ok js
  | [], _, _, _ => ⟨[], rfl⟩
  | x :: xs, _, h, hd => by
      obtain ⟨hx, hxs⟩ := Nat.max_le.mp hd
      obtain ⟨j, hj⟩ := ofValue_formed (h x List.mem_cons_self) hx
      obtain ⟨js, hjs⟩ := ofValues_formed (fun y hy => h y (List.mem_cons_of_mem x hy)) hxs
      exact ⟨j :: js, bind_eq_ok.mpr ⟨j, hj, bind_eq_ok.mpr ⟨js, hjs, rfl⟩⟩⟩

theorem ofEntries_formed : ∀ {es : List (String × Value)} {room : Nat},
    (∀ e ∈ es, e.2.IsFormed) → Value.nestingEntries es ≤ room → ∃ ms, ofEntries room es = .ok ms
  | [], _, _, _ => ⟨[], rfl⟩
  | (key, x) :: es, _, h, hd => by
      obtain ⟨hx, hes⟩ := Nat.max_le.mp hd
      obtain ⟨j, hj⟩ := ofValue_formed (h (key, x) List.mem_cons_self) hx
      obtain ⟨ms, hms⟩ := ofEntries_formed (fun e he => h e (List.mem_cons_of_mem _ he)) hes
      exact ⟨(key, j) :: ms, bind_eq_ok.mpr ⟨j, hj, bind_eq_ok.mpr ⟨ms, hms, rfl⟩⟩⟩

end

end Json

namespace Statement

variable {room : Nat} {s : Statement}

def values (s : Statement) : List Value := s.template.toValue :: s.parameters

theorem wire_error {v : Value} {e : Json.EncodeError} (hv : v ∈ s.values)
    (h : Json.ofValue room v = .error e) : ∃ e, s.wire room = .error e := by
  obtain ⟨e, he⟩ := Json.ofValues_error hv h
  rw [values] at he
  exact ⟨e, by rw [wire, he]; rfl⟩

theorem wire_formed (h : ∀ v ∈ s.values, v.IsFormed ∧ v.nesting ≤ room) :
    ∃ j, s.wire room = .ok j := by
  have hd : Value.nestings s.values ≤ room := Value.nestings_le_iff.mpr fun v hv => (h v hv).2
  obtain ⟨js, hjs⟩ := Json.ofValues_formed (fun v hv => (h v hv).1) hd
  rw [values] at hjs
  exact ⟨.list js, by rw [wire, hjs]; rfl⟩

theorem wireAll_error {batch : List Statement} {e : Json.EncodeError} (hs : s ∈ batch)
    (h : s.wire room = .error e) : ∃ e, wireAll room batch = .error e :=
  error_of_mem (f := wire room) (g := wireAll room) (k := fun _ j js => j :: js) (fun _ _ => rfl) hs h

end Statement

namespace Item

variable {room : Nat} {items : List Item} {i : Item}

/-- An item that is no statement, or one in which a value has no form or stands too deep. -/
inductive IsRefused (room : Nat) : Item → Prop
  | stranger (v : Value) : IsRefused room (.other v)
  | formless {i : Item} {s : Statement} {v u : Value} (hs : i.statement? = .ok s) (hv : v ∈ s.values)
      (hu : v.Holds u) (hf : u.isFormless = true) : IsRefused room i
  | deep {i : Item} {s : Statement} {v : Value} (hs : i.statement? = .ok s) (hv : v ∈ s.values)
      (hd : room < v.nesting) : IsRefused room i

theorem IsRefused.cause (h : i.IsRefused room) :
    (∃ v, i = .other v) ∨ ∃ s e, i.statement? = .ok s ∧ s.wire room = .error e := by
  cases h with
  | stranger v => exact .inl ⟨v, rfl⟩
  | formless hs hv hu hf =>
      obtain ⟨e, he⟩ := Json.ofValue_error hu hf room
      obtain ⟨e, he⟩ := Statement.wire_error hv he
      exact .inr ⟨_, e, hs, he⟩
  | deep hs hv hd =>
      obtain ⟨e, he⟩ := Json.ofValue_deep hd
      obtain ⟨e, he⟩ := Statement.wire_error hv he
      exact .inr ⟨_, e, hs, he⟩

def wire? (room : Nat) (i : Item) : Except BatchError Json := do
  let s ← i.statement?
  (s.wire room).mapError .encoding

theorem statements_error {e : BatchError} (hi : i ∈ items) (h : i.statement? = .error e) :
    ∃ e, statements? items = .error e :=
  error_of_mem (f := statement?) (g := statements?) (k := fun _ s ss => s :: ss) (fun _ _ => rfl) hi h

theorem mem_statements {batch : List Statement} (h : statements? items = .ok batch) {s : Statement}
    (hi : i ∈ items) (hs : i.statement? = .ok s) : s ∈ batch := by
  induction items generalizing batch with
  | nil => cases hi
  | cons k ks ih =>
      obtain ⟨t, ht, h⟩ := bind_eq_ok.mp h
      obtain ⟨ts, hts, h⟩ := bind_eq_ok.mp h
      cases h
      rcases List.mem_cons.mp hi with rfl | hi
      · rw [hs] at ht
        cases ht
        exact List.mem_cons_self
      · exact List.mem_cons_of_mem t (ih hts hi)

theorem refused_of_mem (hi : i ∈ items) (h : i.IsRefused room) :
    (∃ e, statements? items = .error e) ∨
      ∃ batch e, statements? items = .ok batch ∧ Statement.encodeAll room batch = .error e := by
  rcases h.cause with ⟨v, rfl⟩ | ⟨s, e, hs, he⟩
  · exact .inl (statements_error hi rfl)
  · cases hb : statements? items with
    | error e => exact .inl ⟨e, rfl⟩
    | ok batch =>
        obtain ⟨e, he⟩ := Statement.wireAll_error (mem_statements hb hi hs) he
        exact .inr ⟨batch, e, rfl, by rw [Statement.encodeAll, he]; rfl⟩

theorem wire_of_isRefused (h : i.IsRefused room) : ∃ e, i.wire? room = .error e := by
  rcases h.cause with ⟨v, rfl⟩ | ⟨s, e, hs, he⟩
  · exact ⟨_, rfl⟩
  · exact ⟨.encoding e, by rw [wire?, hs]; exact congrArg (Except.mapError _) he⟩

theorem wire_of_not_isRefused (h : ¬i.IsRefused room) :
    ∃ s j, i.statement? = .ok s ∧ s.wire room = .ok j := by
  cases hs : i.statement? with
  | error e =>
      cases i with
      | plain t => cases hs
      | prepared s => cases hs
      | other v => exact absurd (.stranger v) h
  | ok s =>
      have hformed : ∀ v ∈ s.values, v.IsFormed ∧ v.nesting ≤ room := by
        intro v hv
        refine ⟨fun u hu => ?_, Nat.not_lt.mp fun hd => h (.deep hs hv hd)⟩
        rw [Bool.eq_false_iff]
        exact fun hf => h (.formless hs hv hu hf)
      obtain ⟨j, hj⟩ := Statement.wire_formed hformed
      exact ⟨s, j, rfl, hj⟩

theorem wires_of_not_isRefused (h : ∀ i ∈ items, ¬i.IsRefused room) :
    ∃ batch js, statements? items = .ok batch ∧
      Statement.encodeAll room batch = .ok (Json.render (.list js)) ∧ batch.length = items.length ∧
      List.Forall₂ (fun i j => i.wire? room = .ok j) items js := by
  have hwires : ∃ batch js, statements? items = .ok batch ∧ Statement.wireAll room batch = .ok js ∧
      batch.length = items.length ∧
      List.Forall₂ (fun i j => i.wire? room = .ok j) items js := by
    induction items with
    | nil => exact ⟨[], [], rfl, rfl, rfl, .nil⟩
    | cons i is ih =>
        obtain ⟨s, j, hs, hj⟩ := wire_of_not_isRefused (h i List.mem_cons_self)
        obtain ⟨batch, js, hb, hjs, hlen, hall⟩ := ih fun k hk => h k (List.mem_cons_of_mem i hk)
        have hwire : i.wire? room = .ok j := bind_eq_ok.mpr ⟨s, hs, by rw [hj]; rfl⟩
        refine ⟨s :: batch, j :: js, ?_, ?_, ?_, .cons hwire hall⟩
        · exact bind_eq_ok.mpr ⟨s, hs, bind_eq_ok.mpr ⟨batch, hb, rfl⟩⟩
        · exact bind_eq_ok.mpr ⟨j, hj, bind_eq_ok.mpr ⟨js, hjs, rfl⟩⟩
        · rw [List.length_cons, List.length_cons, hlen]
  obtain ⟨batch, js, hb, hjs, hlen, hall⟩ := hwires
  exact ⟨batch, js, hb, map_eq_ok.mpr ⟨js, hjs, rfl⟩, hlen, hall⟩

/-- A batch is refused for the items that are, and for no other reason. -/
theorem encodeAll_error_iff :
    (∃ e, encodeAll room items = .error e) ↔ ∃ i ∈ items, i.IsRefused room := by
  constructor
  · rintro ⟨e, he⟩
    by_contra hnone
    push Not at hnone
    obtain ⟨batch, js, hb, hcs, -⟩ := wires_of_not_isRefused hnone
    rw [encodeAll, hb] at he
    simp [hcs, bind, Except.bind] at he
  · rintro ⟨i, hi, hr⟩
    rcases refused_of_mem hi hr with ⟨e, he⟩ | ⟨batch, e, hb, he⟩
    · exact ⟨e, by rw [encodeAll, he]; rfl⟩
    · refine ⟨.encoding e, ?_⟩
      rw [encodeAll, hb]
      simp [he, bind, Except.bind]

theorem encodeAll_ok_iff :
    (∃ cs, encodeAll room items = .ok cs) ↔ ∀ i ∈ items, ¬i.IsRefused room := by
  cases h : encodeAll room items with
  | error e =>
      obtain ⟨i, hi, hr⟩ := encodeAll_error_iff.mp ⟨e, h⟩
      exact iff_of_false (fun ⟨cs, hcs⟩ => nomatch hcs) fun hnone => hnone i hi hr
  | ok cs =>
      refine iff_of_true ⟨cs, rfl⟩ fun i hi hr => ?_
      obtain ⟨e, he⟩ := encodeAll_error_iff.mpr ⟨i, hi, hr⟩
      exact nomatch h.symm.trans he

theorem wires_of_encodeAll {cs : List Char} (h : encodeAll room items = .ok cs) :
    ∃ js, cs = Json.render (.list js) ∧
      List.Forall₂ (fun i j => i.wire? room = .ok j) items js := by
  obtain ⟨batch, js, hb, hcs, -, hall⟩ := wires_of_not_isRefused (encodeAll_ok_iff.mp ⟨cs, h⟩)
  rw [encodeAll, hb] at h
  simp only [bind, Except.bind, hcs, Except.ok.injEq] at h
  exact ⟨js, h.symm, hall⟩

theorem wire?_eq_ok {j : Json} (h : i.wire? room = .ok j) :
    ∃ s js, i.statement? = .ok s ∧ Json.ofValues room s.values = .ok js ∧ j = .list js := by
  obtain ⟨s, hs, hj⟩ := bind_eq_ok.mp h
  have hw : s.wire room = .ok j := by
    cases hx : s.wire room with
    | error e =>
        rw [hx] at hj
        cases hj
    | ok k =>
        rw [hx] at hj
        exact congrArg Except.ok (Except.ok.inj hj)
  obtain ⟨js, hjs, rfl⟩ := map_eq_ok.mp hw
  exact ⟨s, js, hs, hjs, rfl⟩

end Item

end SqlCluster
