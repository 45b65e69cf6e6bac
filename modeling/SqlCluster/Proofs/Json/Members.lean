import Mathlib.Data.List.Nodup
import SqlCluster.Json.Field
/-!
Objects in which no key comes twice. A field of such an object is read from the one member of its
name, and its members keep their places.
-/
namespace SqlCluster.Json

def KeyedOnce {α : Type} (ms : List (String × α)) : Prop := (ms.map (·.1)).Nodup

def Lacks (ms : List (String × Json)) (key : String) : Prop := ∀ m ∈ ms, m.1 ≠ key

instance {α : Type} (ms : List (String × α)) : Decidable (KeyedOnce ms) :=
  inferInstanceAs (Decidable (List.Nodup _))

instance (ms : List (String × Json)) (key : String) : Decidable (Lacks ms key) :=
  inferInstanceAs (Decidable (∀ m ∈ ms, m.1 ≠ key))

/-- What an object says in a field that may be left out or be null. -/
inductive Says {α : Type} (ms : List (String × Json)) (key : String) (form : α → Json → Prop) :
    Slot α → Prop
  | absent (h : Lacks ms key) : Says ms key form .absent
  | null (h : (key, .null) ∈ ms) : Says ms key form .null
  | given {a : α} {j : Json} (h : (key, j) ∈ ms) (hj : form a j) : Says ms key form (.given a)

def Gives (ms : List (String × Json)) (key : String) (default j : Json) : Prop :=
  (key, j) ∈ ms ∨ j = default ∧ Lacks ms key

variable {ms : List (String × Json)} {key : String} {j : Json} {α : Type}

theorem find?_of_keyedOnce {es : List (String × α)} {a : α} (hu : KeyedOnce es) (h : (key, a) ∈ es) :
    es.find? (·.1 = key) = some (key, a) := by
  cases hf : es.find? (·.1 = key) with
  | none => exact absurd (List.find?_eq_none.mp hf _ h) (by simp)
  | some e =>
      have hk : e.1 = key := by simpa using List.find?_some hf
      exact congrArg some (List.inj_on_of_nodup_map hu (List.mem_of_find?_eq_some hf) h hk)

theorem member?_of_mem (hu : KeyedOnce ms) (h : (key, j) ∈ ms) : member? key ms = some j := by
  have hr : KeyedOnce ms.reverse := by
    rw [KeyedOnce, List.map_reverse]
    exact List.nodup_reverse.mpr hu
  rw [member?, find?_of_keyedOnce hr (List.mem_reverse.mpr h), Option.map_some]

theorem member?_of_lacks (h : Lacks ms key) : member? key ms = none := by
  rw [member?, List.find?_eq_none.mpr]
  · rfl
  · intro m hm
    simpa using h m (List.mem_reverse.mp hm)

theorem mem_of_member? (h : member? key ms = some j) : ∃ m ∈ ms, m.2 = j := by
  obtain ⟨m, hm, rfl⟩ := Option.map_eq_some_iff.mp h
  exact ⟨m, List.mem_reverse.mp (List.mem_of_find?_eq_some hm), rfl⟩

theorem slot?_of_says {form : α → Json → Prop} {read : Json → Option α} {s : Slot α}
    (hu : KeyedOnce ms) (hs : Says ms key form s)
    (hr : ∀ a j, form a j → read j = some a ∧ j ≠ .null) : slot? key read ms = some s := by
  cases hs with
  | absent h => rw [slot?, member?_of_lacks h]
  | null h => rw [slot?, member?_of_mem hu h]
  | @given a j h hj =>
      obtain ⟨hread, hne⟩ := hr a j hj
      rw [slot?, member?_of_mem hu h]
      cases j with
      | null => exact absurd rfl hne
      | _ => exact congrArg (Option.map Slot.given) hread

theorem mem_of_slot? {read : Json → Option α} {s : Slot α} {a : α} (h : slot? key read ms = some s)
    (ha : s.get? = some a) : ∃ m ∈ ms, read m.2 = some a := by
  rw [slot?] at h
  split at h
  · cases h
    cases ha
  · cases h
    cases ha
  · next hj =>
      obtain ⟨m, hm, rfl⟩ := mem_of_member? hj
      obtain ⟨b, hb, rfl⟩ := Option.map_eq_some_iff.mp h
      cases ha
      exact ⟨m, hm, hb⟩

theorem fieldOr?_of_mem {read : Json → Option α} {default : α} (hu : KeyedOnce ms)
    (h : (key, j) ∈ ms) : fieldOr? key default read ms = read j := by
  rw [fieldOr?, member?_of_mem hu h]

theorem fieldOr?_of_lacks {read : Json → Option α} {default : α} (h : Lacks ms key) :
    fieldOr? key default read ms = some default := by
  rw [fieldOr?, member?_of_lacks h]

theorem fieldOr?_of_gives {read : Json → Option α} {default value : α} {d : Json} (hu : KeyedOnce ms)
    (h : Gives ms key d j) (hd : read d = some default) (hj : read j = some value) :
    fieldOr? key default read ms = some value := by
  rcases h with h | ⟨rfl, h⟩
  · rw [fieldOr?_of_mem hu h, hj]
  · rw [fieldOr?_of_lacks h, ← hd, hj]

theorem textOr?_of_gives {default s : String} (hu : KeyedOnce ms)
    (h : Gives ms key (.text default) (.text s)) : fieldOr? key default text? ms = some s :=
  fieldOr?_of_gives hu h rfl rfl

theorem boolOr?_of_gives {default b : Bool} (hu : KeyedOnce ms)
    (h : Gives ms key (.bool default) (.bool b)) : fieldOr? key default bool? ms = some b :=
  fieldOr?_of_gives hu h rfl rfl

theorem listOf?_of_forall₂ {read : Json → Option α} {values : List α} {js : List Json}
    (h : List.Forall₂ (fun a j => read j = some a) values js) :
    listOf? read (.list js) = some values := by
  rw [listOf?]
  induction h with
  | nil => rfl
  | cons ha _ ih => rw [List.mapM_cons, ha, ih]; rfl

theorem forall₂_of_listOf? {read : Json → Option α} {values : List α}
    (h : listOf? read j = some values) :
    ∃ js, j = .list js ∧ List.Forall₂ (fun a j => read j = some a) values js := by
  cases j with
  | list js =>
      refine ⟨js, rfl, ?_⟩
      rw [listOf?] at h
      induction js generalizing values with
      | nil =>
          cases h
          exact .nil
      | cons j js ih =>
          rw [List.mapM_cons] at h
          obtain ⟨a, ha, h⟩ := Option.bind_eq_some_iff.mp h
          obtain ⟨as, has, h⟩ := Option.bind_eq_some_iff.mp h
          cases h
          exact .cons ha (ih has)
  | _ => cases h

theorem listOf?_map {read : Json → Option α} {form : α → Json} (h : ∀ a, read (form a) = some a)
    (values : List α) : listOf? read (.list (values.map form)) = some values :=
  listOf?_of_forall₂ (List.forall₂_map_right_iff.mpr (List.forall₂_same.mpr fun a _ => h a))

theorem putEntry_of_not_mem {es : List (String × α)} {a : α} (h : key ∉ es.map (·.1)) :
    putEntry key a es = es ++ [(key, a)] := by
  induction es with
  | nil => rfl
  | cons e es ih =>
      rw [List.map_cons, List.mem_cons, not_or] at h
      rw [putEntry, if_neg (Ne.symm h.1), ih h.2, List.cons_append]

theorem collectEntries_of_keyedOnce {es : List (String × α)} (h : KeyedOnce es) :
    collectEntries es = es := by
  -- Of what is put so far nothing is put again.
  have hput (done es : List (String × α)) (h : KeyedOnce (done ++ es)) :
      es.foldl (fun es p => putEntry p.1 p.2 es) done = done ++ es := by
    induction es generalizing done with
    | nil => exact (List.append_nil done).symm
    | cons e es ih =>
        have hmid : done ++ e :: es = done ++ [e] ++ es := by simp
        have hnot : e.1 ∉ done.map (·.1) := by
          rw [KeyedOnce, List.map_append, List.nodup_append] at h
          intro hm
          exact h.2.2 _ hm _ (List.mem_map.mpr ⟨e, List.mem_cons_self, rfl⟩) rfl
        rw [hmid] at h
        rw [List.foldl_cons, putEntry_of_not_mem hnot, ih (done ++ [e]) h, hmid]
  exact hput [] es h

theorem mapOf?_of_forall₂ {read : Json → Option α} {es : List (String × α)} (hu : KeyedOnce es)
    (h : List.Forall₂ (fun e m => m.1 = e.1 ∧ read m.2 = some e.2) es ms) :
    mapOf? read (.map ms) = some es := by
  have hread : (ms.mapM fun m => (read m.2).map fun v => (m.1, v)) = some es := by
    clear hu
    induction h with
    | nil => rfl
    | @cons e m es ms he _ ih =>
        rw [List.mapM_cons, he.1, he.2, ih]
        rfl
  rw [mapOf?, hread, Option.map_some, collectEntries_of_keyedOnce hu]

end SqlCluster.Json
