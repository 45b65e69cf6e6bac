import SqlCluster.Proofs.Json.Bare
import SqlCluster.Proofs.Statement.Refusal
import SqlCluster.Proofs.Statement.Wire
/-!
Batches as JSON by the standard's grammar. A body is one where every number in the batch is finite,
and is none where a single number is not, since such numbers are written and not refused.
-/
namespace SqlCluster

open Outcome Text

namespace Value

/-- The numbers for which JSON has no text: a float that is not finite, and a decimal that becomes
one. -/
def isNonFinite : Value → Bool
  | .float d => !d.isFinite
  | .decimal d => d.toDouble?.any fun x => !x.isFinite
  | _ => false

def IsFinite (v : Value) : Prop := ∀ u, v.Holds u → u.isNonFinite = false

theorem isNonFinite_float {d : Number.Double} :
    (Value.float d).isNonFinite = true ↔ d.isFinite = false := by simp [isNonFinite]

theorem isNonFinite_decimal {d : Number.Decimal} :
    (Value.decimal d).isNonFinite = true ↔ ∃ x, d.toDouble? = some x ∧ x.isFinite = false := by
  cases h : d.toDouble? <;> simp [isNonFinite, h]

end Value

namespace Json

variable {room : Nat}

theorem mem_ofValues {xs : List Value} {js : List Json} (h : ofValues room xs = .ok js) {x : Value}
    (hx : x ∈ xs) : ∃ j, ofValue room x = .ok j ∧ j ∈ js :=
  ok_of_mem (f := ofValue room) (g := ofValues room) (k := fun _ j => j) (fun _ _ => rfl) h hx

theorem mem_ofEntries {es : List (String × Value)} {ms : List (String × Json)}
    (h : ofEntries room es = .ok ms) {e : String × Value} (he : e ∈ es) :
    ∃ j, ofValue room e.2 = .ok j ∧ (e.1, j) ∈ ms :=
  ok_of_mem (f := fun e => ofValue room e.2) (g := ofEntries room) (k := fun e j => (e.1, j))
    (fun _ _ => rfl) h he

theorem not_sober_ofValue {v u : Value} (h : v.Holds u) (hu : u.isNonFinite = true) {j : Json}
    (hj : ofValue room v = .ok j) : ¬Within Sober (bare (render j)) := by
  induction h generalizing room j with
  | self v =>
      cases v with
      | float d =>
          cases hj
          exact not_sober_float (Value.isNonFinite_float.mp hu)
      | decimal d =>
          obtain ⟨x, hx, hfinite⟩ := Value.isNonFinite_decimal.mp hu
          rw [ofValue, ofDecimal, hx] at hj
          cases hj
          exact not_sober_float hfinite
      | _ => cases hu
  | list hm _ ih =>
      obtain ⟨js, hjs, rfl⟩ := map_eq_ok.mp hj
      obtain ⟨_, -, hjs⟩ := inside_eq_ok.mp hjs
      obtain ⟨k, hx, hk⟩ := mem_ofValues hjs hm
      exact fun hs => ih hu hx (hs.of_subset (bare_subset_list hk))
  | tuple hm _ ih =>
      obtain ⟨js, hjs, rfl⟩ := map_eq_ok.mp hj
      obtain ⟨_, -, hjs⟩ := inside_eq_ok.mp hjs
      obtain ⟨k, hx, hk⟩ := mem_ofValues hjs hm
      exact fun hs => ih hu hx (hs.of_subset (bare_subset_list hk))
  | map hm _ ih =>
      obtain ⟨ms, hms, rfl⟩ := map_eq_ok.mp hj
      obtain ⟨_, -, hms⟩ := inside_eq_ok.mp hms
      obtain ⟨k, hx, hk⟩ := mem_ofEntries hms hm
      exact fun hs => ih hu hx (hs.of_subset (bare_subset_map hk))

theorem legal_float {d : Number.Double} (h : d.isFinite ≠ false) : Legal (render (.float d)) := by
  rw [Bool.ne_false_iff] at h
  obtain ⟨_, ht⟩ := textOf_chars .script h
  exact ht.legal

theorem legal_text (s : String) : Legal (render (.text s)) := .quoted (quotedText_textChars s).quoted

mutual

theorem legal_ofValue : ∀ {v : Value} {room : Nat} {j : Json}, ofValue room v = .ok j →
    v.IsFinite → Legal (render j)
  | .null, _, _, rfl, _ => .null
  | .bool true, _, _, rfl, _ => .bool (b := true)
  | .bool false, _, _, rfl, _ => .bool (b := false)
  | .int n, _, _, h, _ => by
      obtain ⟨-, rfl⟩ := ofInt_eq_ok.mp h
      exact (textOf_decimalInt n).legal
  | .float d, _, _, rfl, h => legal_float fun hd =>
      Bool.eq_false_iff.mp (h _ (.self _)) (Value.isNonFinite_float.mpr hd)
  | .text s, _, _, rfl, _ => legal_text s
  | .level l, _, _, rfl, _ => legal_text _
  | .bytes _ data, _, _, rfl, _ => legal_text _
  | .date d, _, _, rfl, _ => legal_text _
  | .time c, _, _, rfl, _ => legal_text _
  | .moment m, _, _, rfl, _ => legal_text _
  | .uuid u, _, _, rfl, _ => legal_text _
  | .decimal d, _, j, hj, h => by
      rw [ofValue, ofDecimal] at hj
      cases hx : d.toDouble? with
      | none =>
          rw [hx] at hj
          cases hj
      | some x =>
          rw [hx] at hj
          cases hj
          exact legal_float fun hfinite =>
            Bool.eq_false_iff.mp (h _ (.self _)) (Value.isNonFinite_decimal.mpr ⟨x, hx, hfinite⟩)
  | .list xs, _, _, hj, h => by
      obtain ⟨js, hjs, rfl⟩ := map_eq_ok.mp hj
      obtain ⟨_, -, hjs⟩ := inside_eq_ok.mp hjs
      exact legal_render_list (legal_ofValues hjs fun x hx u hu => h u (.list hx hu))
  | .tuple xs, _, _, hj, h => by
      obtain ⟨js, hjs, rfl⟩ := map_eq_ok.mp hj
      obtain ⟨_, -, hjs⟩ := inside_eq_ok.mp hjs
      exact legal_render_list (legal_ofValues hjs fun x hx u hu => h u (.tuple hx hu))
  | .map es, _, _, hj, h => by
      obtain ⟨ms, hms, rfl⟩ := map_eq_ok.mp hj
      obtain ⟨_, -, hms⟩ := inside_eq_ok.mp hms
      exact legal_render_map (legal_ofEntries hms fun e he u hu => h u (.map he hu))

theorem legal_ofValues : ∀ {xs : List Value} {room : Nat} {js : List Json},
    ofValues room xs = .ok js → (∀ x ∈ xs, x.IsFinite) → ∀ j ∈ js, Legal (render j)
  | [], _, _, rfl, _ => fun _ hj => nomatch hj
  | x :: xs, _, _, h, hf => by
      obtain ⟨j, hj, h⟩ := bind_eq_ok.mp h
      obtain ⟨js, hjs, h⟩ := bind_eq_ok.mp h
      cases h
      rw [List.forall_mem_cons] at hf
      exact List.forall_mem_cons.mpr ⟨legal_ofValue hj hf.1, legal_ofValues hjs hf.2⟩

theorem legal_ofEntries : ∀ {es : List (String × Value)} {room : Nat}
    {ms : List (String × Json)}, ofEntries room es = .ok ms → (∀ e ∈ es, e.2.IsFinite) →
      ∀ m ∈ ms, Legal (render m.2)
  | [], _, _, rfl, _ => fun _ hm => nomatch hm
  | (key, x) :: es, _, _, h, hf => by
      obtain ⟨j, hj, h⟩ := bind_eq_ok.mp h
      obtain ⟨ms, hms, h⟩ := bind_eq_ok.mp h
      cases h
      rw [List.forall_mem_cons] at hf
      exact List.forall_mem_cons.mpr ⟨legal_ofValue hj hf.1, legal_ofEntries hms hf.2⟩

end

inductive EntryText : List Char → Prop
  | mk {q : List Char} {texts : List (List Char)} (hq : Spaced Quoted q)
      (h : ∀ t ∈ texts, LegalItem t) : EntryText ('[' :: (joinWith [','] (q :: texts) ++ [']']))

theorem EntryText.legal {cs : List Char} (h : EntryText cs) : Legal cs := by
  obtain ⟨hq, h⟩ := h
  exact .list (List.cons_ne_nil _ _)
    (List.forall_mem_cons.mpr ⟨hq.legal fun _ => .quoted, h⟩)

theorem entryText_render (s : String) {js : List Json} (h : ∀ j ∈ js, Legal (render j)) :
    EntryText (render (.list (.text s :: js))) := by
  have hquoted := (quotedText_textChars s).quoted
  rw [render, renderItems, render, renderItems_eq, joinWith_comma]
  refine .mk (Spaced.of_text hquoted).1 ?_
  rw [List.map_map]
  exact List.forall_mem_map.mpr fun j hj => (Spaced.of_text (h j hj)).2.legal fun _ hcs => hcs

/-- The body is an array of arrays, each of which begins with a text. -/
def IsBatch (body : List UInt8) : Prop :=
  ∃ cs, Spaced (ArrayText EntryText) cs ∧ body = Utf8.encode cs

theorem isBatch_encode {cs : List Char} (h : ArrayText EntryText cs) : IsBatch (Utf8.encode cs) :=
  ⟨cs, (Spaced.of_text h).1, rfl⟩

theorem sober_of_isBatch {cs : List Char} (h : IsBatch (Utf8.encode cs)) :
    Within Sober (bare cs) := by
  obtain ⟨ds, hd, he⟩ := h
  have hsame : some cs = some ds := by rw [← Utf8.decode?_encode, he, Utf8.decode?_encode]
  obtain rfl := Option.some.inj hsame
  exact (hd.legal fun _ ht => ht.legal fun _ => EntryText.legal).regular.sober

end Json

namespace Item

def hasText : Item → Bool
  | .plain template => template.isText
  | .prepared s => s.template.isText
  | .other _ => true

inductive IsNonFinite : Item → Prop
  | mk {i : Item} {s : Statement} {v u : Value} (hs : i.statement? = .ok s) (hv : v ∈ s.values)
      (hu : v.Holds u) (hf : u.isNonFinite = true) : IsNonFinite i

variable {room : Nat}

theorem entryText_wire {i : Item} {j : Json} (h : i.wire? room = .ok j) (ht : i.hasText = true)
    (hf : ¬i.IsNonFinite) : Json.EntryText (Json.render j) := by
  obtain ⟨s, js, hs, hjs, rfl⟩ := wire?_eq_ok h
  have hfinite : ∀ v ∈ s.parameters, v.IsFinite := by
    intro v hv u hu
    rw [Bool.eq_false_iff]
    exact fun hn => hf (.mk hs (List.mem_cons_of_mem _ hv) hu hn)
  have hx : s.template.isText = true := by
    cases i <;> cases hs <;> exact ht
  obtain ⟨j, hj, hjs⟩ := bind_eq_ok.mp hjs
  obtain ⟨ks, hks, h⟩ := bind_eq_ok.mp hjs
  cases h
  have hlegal := Json.legal_ofValues hks hfinite
  cases htemplate : s.template with
  | text t =>
      rw [htemplate] at hj
      cases hj
      exact Json.entryText_render t hlegal
  | level l =>
      rw [htemplate] at hj
      cases hj
      exact Json.entryText_render l.name hlegal
  | list xs => simp [htemplate, Template.isText] at hx
  | tuple xs => simp [htemplate, Template.isText] at hx

theorem not_sober_wire {i : Item} {j : Json} (h : i.wire? room = .ok j) (hn : i.IsNonFinite) :
    ¬Within Json.Sober (Json.bare (Json.render j)) := by
  obtain ⟨s, js, hs, hjs, rfl⟩ := wire?_eq_ok h
  obtain ⟨ht, hv, hu, hf⟩ := hn
  rw [hs] at ht
  cases ht
  obtain ⟨k, hv, hk⟩ := Json.mem_ofValues hjs hv
  exact fun hsober => Json.not_sober_ofValue hu hf hv (hsober.of_subset (Json.bare_subset_list hk))

theorem exists_of_forall₂ {α β : Type} {R : α → β → Prop} {xs : List α} {ys : List β}
    (h : List.Forall₂ R xs ys) {x : α} (hx : x ∈ xs) : ∃ y ∈ ys, R x y := by
  induction h with
  | nil => cases hx
  | cons hr _ ih =>
      rcases List.mem_cons.mp hx with rfl | hx
      · exact ⟨_, List.mem_cons_self, hr⟩
      · obtain ⟨y, hy, hr⟩ := ih hx
        exact ⟨y, List.mem_cons_of_mem _ hy, hr⟩

/-- What is promised of a batch: a body is a batch by the standard's grammar, and a value that has
no text there, for being of no such kind or for not being finite, is refused. -/
def IsLawful (room : Nat) (items : List Item) : Prop :=
  (∀ cs, encodeAll room items = .ok cs → Json.IsBatch (Utf8.encode cs)) ∧
    ((∃ i ∈ items, i.IsRefused room ∨ i.IsNonFinite) → ∃ e, encodeAll room items = .error e)

/-- A batch is refused where an item is. Any other has a body, which is a batch by the standard's
grammar exactly where all of its numbers are finite. -/
theorem isLawful_iff (room : Nat) (items : List Item) (ht : ∀ i ∈ items, i.hasText = true) :
    ((∃ e, encodeAll room items = .error e) ↔ ∃ i ∈ items, i.IsRefused room) ∧
      (∀ cs, encodeAll room items = .ok cs →
        (Json.IsBatch (Utf8.encode cs) ↔ ∀ i ∈ items, ¬i.IsNonFinite)) ∧
      (IsLawful room items ↔
        (∃ i ∈ items, i.IsRefused room) ∨ ∀ i ∈ items, ¬i.IsNonFinite) := by
  have hbody : ∀ cs, encodeAll room items = .ok cs →
      (Json.IsBatch (Utf8.encode cs) ↔ ∀ i ∈ items, ¬i.IsNonFinite) := by
    intro cs hcs
    obtain ⟨js, rfl, hall⟩ := wires_of_encodeAll hcs
    constructor
    · intro hbatch i hi hn
      obtain ⟨j, hj, hw⟩ := exists_of_forall₂ hall hi
      have hsober := (Json.sober_of_isBatch hbatch).of_subset (Json.bare_subset_list hj)
      exact not_sober_wire hw hn hsober
    · intro hfinite
      rw [Json.render, Json.renderItems_eq]
      refine Json.isBatch_encode (Json.arrayText_comma (List.forall_mem_map.mpr ?_))
      intro j hj
      obtain ⟨i, hi, hw⟩ := exists_of_forall₂ hall.flip hj
      exact entryText_wire hw (ht i hi) (hfinite i hi)
  refine ⟨encodeAll_error_iff, hbody, ?_⟩
  constructor
  · rintro ⟨hlegal, hraise⟩
    refine or_iff_not_imp_left.mpr fun hnone i hi hn => ?_
    exact hnone (encodeAll_error_iff.mp (hraise ⟨i, hi, .inr hn⟩))
  · rintro (hrefused | hfinite)
    · obtain ⟨e, he⟩ := encodeAll_error_iff.mpr hrefused
      exact ⟨fun cs hcs => (nomatch he.symm.trans hcs), fun _ => ⟨e, he⟩⟩
    · refine ⟨fun cs hcs => (hbody cs hcs).mpr hfinite, ?_⟩
      rintro ⟨i, hi, hr | hn⟩
      · exact encodeAll_error_iff.mpr ⟨i, hi, hr⟩
      · exact absurd hn (hfinite i hi)

/-- A decimal beyond the largest double, inside a list and an object. -/
def overflowingBatch : List Item :=
  [.plain (.text "SELECT 1"),
    .prepared ⟨.text "SELECT ?", [.list [.map [("k", .decimal (.finite false 1 400))]]]⟩]

theorem overflowingBatch_no_batch :
    (∀ i ∈ overflowingBatch, i.hasText = true) ∧
      ∃ cs, encodeAll 2 overflowingBatch = .ok cs ∧ ¬Json.IsBatch (Utf8.encode cs) := by
  have ht : ∀ i ∈ overflowingBatch, i.hasText = true := by decide
  refine ⟨ht, _, rfl, fun hbatch => ?_⟩
  have hnumber : (Value.decimal (.finite false 1 400)).isNonFinite = true := by decide
  have hfinite := ((isLawful_iff 2 overflowingBatch ht).2.1 _ rfl).mp hbatch
  exact hfinite _ (.tail _ (.head _))
    (.mk rfl (.tail _ (.head _)) (.list (.head _) (.map (.head _) (.self _))) hnumber)

/-- A float that is no number has a body all the same, and one that no reader of JSON takes. -/
theorem not_isLawful_nan :
    ¬∃ room, IsLawful room [.prepared ⟨.text "SELECT ?", [.float .nan]⟩] := by
  rintro ⟨room, hlawful⟩
  have hsober := Json.sober_of_isBatch (hlawful.1 _ rfl)
  exact absurd hsober (by decide)

end Item

end SqlCluster
