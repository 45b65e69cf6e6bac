import SqlCluster.Proofs.Json.Members
import SqlCluster.Proofs.Json.Nested
import SqlCluster.Proofs.Response.Results
/-!
Decoding is faithful. A text of an answer becomes one result an entry, and each result keeps what
its own entry says.
-/
namespace SqlCluster.Response

open Number Json

inductive NumberForm : Double → Json → Prop
  | float (d : Double) : NumberForm d (.float d)
  | int (n : Int) : NumberForm (Double.ofInt n) (.int n)

/-- The members are the entry's fields, each left out, null, or of its own type. -/
structure Entry.WrittenIn (e : Entry) (ms : List (String × Json)) : Prop where
  unique : KeyedOnce ms
  columns : Says ms "columns" (fun xs j => j = .list (xs.map .text)) e.columns
  types : Says ms "types" (fun xs j => j = .list (xs.map .text)) e.types
  values : Says ms "values" (fun rows j => j = .list (rows.map .list)) e.values
  lastInsertId : Says ms "last_insert_id" (fun n j => j = .int n) e.lastInsertId
  rowsAffected : Says ms "rows_affected" (fun n j => j = .int n) e.rowsAffected
  time : Says ms "time" NumberForm e.time
  error : Says ms "error" (fun m j => j = .text m) e.error

inductive Entry.Form (e : Entry) : Json → Prop
  | map {ms : List (String × Json)} (h : e.WrittenIn ms) : e.Form (.map ms)

inductive Lists (top : List (String × Json)) : List Entry → Prop
  | absent (h : Lacks top "results") : Lists top []
  | given {es : List Entry} {js : List Json} (h : ("results", .list js) ∈ top)
      (hs : List.Forall₂ Entry.Form es js) : Lists top es

structure Answers (top : List (String × Json)) (es : List Entry) : Prop where
  unique : KeyedOnce top
  results : Lists top es
  time : ∃ s, Says top "time" NumberForm s
  sequenceNumber : ∃ s, Says top "sequence_number" (fun n j => j = .int n) s
  error : ∃ s, Says top "error" (fun m j => j = .text m) s ∧ ∀ m, s = .given m → m = ""

variable {ms top : List (String × Json)} {e : Entry} {es : List Entry} {j : Json}
  {body : List UInt8} {operation : Operation}

theorem Answers.of_entry (h : e.WrittenIn ms) : Answers [("results", .list [.map ms])] [e] where
  unique := List.nodup_singleton _
  results := .given (.head _) (.cons (.map h) .nil)
  time := ⟨_, .absent (by simp [Lacks])⟩
  sequenceNumber := ⟨_, .absent (by simp [Lacks])⟩
  error := ⟨_, .absent (by simp [Lacks]), nofun⟩

theorem float?_of_numberForm {d : Double} (h : NumberForm d j) : float? j = some d ∧ j ≠ .null := by
  cases h with
  | float => exact ⟨rfl, nofun⟩
  | int => exact ⟨rfl, nofun⟩

theorem int?_of_form {key : String} {s : Slot Int} (hu : KeyedOnce ms)
    (h : Says ms key (fun n j => j = .int n) s) : slot? key int? ms = some s :=
  slot?_of_says hu h (by rintro n j rfl; exact ⟨rfl, nofun⟩)

theorem text?_of_form {key : String} {s : Slot String} (hu : KeyedOnce ms)
    (h : Says ms key (fun m j => j = .text m) s) : slot? key text? ms = some s :=
  slot?_of_says hu h (by rintro m j rfl; exact ⟨rfl, nofun⟩)

theorem lists?_of_form {α : Type} {read : Json → Option α} {form : α → Json} {key : String}
    {s : Slot (List α)} (hr : ∀ a, read (form a) = some a) (hu : KeyedOnce ms)
    (h : Says ms key (fun xs j => j = .list (xs.map form)) s) :
    slot? key (listOf? read) ms = some s :=
  slot?_of_says hu h (by rintro xs j rfl; exact ⟨listOf?_map hr xs, nofun⟩)

theorem Entry.ofJson?_of_form (h : e.Form j) : Entry.ofJson? j = some e := by
  obtain @⟨ms, h⟩ := h
  have htext (s : String) : text? (.text s) = some s := rfl
  have hcolumns := lists?_of_form htext h.unique h.columns
  have htypes := lists?_of_form htext h.unique h.types
  have hcells (r : List Json) : listOf? some (.list r) = some r := by
    have hr : listOf? some (.list (r.map id)) = some r := listOf?_map (fun _ => rfl) r
    rwa [List.map_id] at hr
  have hvalues := lists?_of_form hcells h.unique h.values
  have htime := slot?_of_says h.unique h.time fun _ _ => float?_of_numberForm
  simp only [Entry.ofJson?, hcolumns, htypes, hvalues, int?_of_form h.unique h.lastInsertId,
    int?_of_form h.unique h.rowsAffected, htime, text?_of_form h.unique h.error,
    Option.bind_eq_bind, Option.bind_some, Option.pure_def]

theorem results_of_lists (hu : KeyedOnce top) (h : Lists top es) :
    fieldOr? "results" [] (listOf? Entry.ofJson?) top = some es := by
  cases h with
  | absent h => exact fieldOr?_of_lacks h
  | given h hs =>
      rw [fieldOr?_of_mem hu h]
      exact listOf?_of_forall₂ (hs.imp fun _ _ => Entry.ofJson?_of_form)

theorem parse_of_answers (h : Answers top es) (hb : BodyOf (.map top) body) :
    ∃ envelope, parse body = .ok envelope ∧ envelope.results = es := by
  obtain ⟨time, htime⟩ := h.time
  obtain ⟨number, hnumber⟩ := h.sequenceNumber
  obtain ⟨error, herror, hempty⟩ := h.error
  have hread : Envelope.ofJson? (.map top) =
      some ⟨es, time.get?, number.get?, error.get?⟩ := by
    have htime := slot?_of_says h.unique htime fun _ _ => float?_of_numberForm
    simp only [Envelope.ofJson?, results_of_lists h.unique h.results, htime,
      int?_of_form h.unique hnumber, text?_of_form h.unique herror, Option.bind_eq_bind,
      Option.bind_some, Option.pure_def]
  refine ⟨⟨es, time.get?, number.get?, error.get?⟩, ?_, rfl⟩
  rw [parse, answer?_of_bodyOf hb, Option.bind_some, hread]
  cases error with
  | absent => rfl
  | null => rfl
  | given m => exact if_pos (hempty m rfl)

/-- The result is the entry's at its place: of the kind that the operation and the columns say, with
the entry's own error, and with its rows or its counts. -/
structure Keeps (operation : Operation) (i : Nat) (e : Entry) (r : Result) : Prop where
  index : r.index = i
  kind : (∃ q, r = .query q) ↔
    operation = .query ∨ operation = .request ∧ e.columns ≠ .absent
  fault : ∀ m, e.error = .given m → m ≠ "" → r.error = .text m
  well : (∀ m, e.error = .given m → m = "") → r.error = .null
  rows : ∀ q, r = .query q →
    q.columns = (e.columns.get?.getD []).map .text ∧
    q.types = (e.types.get?.getD []).map Text.lowerText ∧
    q.rows = (e.values.get?.getD []).map (·.map toValue) ∧
    q.time = e.seconds
  counts : ∀ w, r = .write w →
    w.rowsAffected = e.rowsAffected.get?.getD 0 ∧
    w.lastInsertId = (e.lastInsertId.get?.map .int).getD .null ∧
    w.time = e.seconds

theorem toValues_eq_map (xs : List Json) : toValues xs = xs.map toValue := by
  induction xs with
  | nil => rfl
  | cons x xs ih => rw [toValues, ih, List.map_cons]

theorem Entry.error_result (operation : Operation) (i : Int) (e : Entry) :
    (e.result operation i).error = e.fault := by
  rw [Entry.result]
  split <;> rfl

theorem keeps_result (operation : Operation) (i : Nat) (e : Entry) :
    Keeps operation i e (e.result operation i) where
  index := by
    rw [Entry.result]
    split <;> rfl
  kind := by
    by_cases h : e.HoldsRows operation
    · rw [Entry.result, if_pos h]
      exact ⟨fun _ => h, fun _ => ⟨_, rfl⟩⟩
    · rw [Entry.result, if_neg h]
      constructor
      · rintro ⟨q, hq⟩
        cases hq
      · exact fun hr => absurd hr h
  fault := by
    intro m hm hne
    rw [Entry.error_result, Entry.fault, hm]
    exact if_neg hne
  well := by
    intro h
    rw [Entry.error_result, Entry.fault]
    cases he : e.error with
    | absent => rfl
    | null => rfl
    | given m => exact if_pos (h m he)
  rows := by
    intro q hq
    rw [Entry.result] at hq
    split at hq
    · cases hq
      exact ⟨rfl, rfl, List.map_congr_left fun r _ => toValues_eq_map r, rfl⟩
    · cases hq
  counts := by
    intro w hw
    rw [Entry.result] at hw
    split at hw
    · cases hw
    · cases hw
      exact ⟨rfl, rfl, rfl⟩

theorem decode_of_answers (ho : operation.isData = true) (h : Answers top es)
    (hb : BodyOf (.map top) body) :
    decode body operation = .ok (es.mapIdx fun i e => e.result operation i) := by
  obtain ⟨envelope, hp, rfl⟩ := parse_of_answers h hb
  rw [decode_eq ho, hp]

/-- An answer gives one result an entry, in order. Each keeps what its entry says, and stays the
same whatever the other entries are. -/
theorem decode_faithful (ho : operation.isData = true) (h : Answers top es)
    (hb : BodyOf (.map top) body) :
    ∃ rs, decode body operation = .ok rs ∧ rs.length = es.length ∧
      ∀ i e, es[i]? = some e → ∃ r, rs[i]? = some r ∧ Keeps operation i e r ∧
        ∀ others top' body', Answers top' others → BodyOf (.map top') body' →
          others[i]? = some e → ∃ rs', decode body' operation = .ok rs' ∧ rs'[i]? = some r := by
  refine ⟨_, decode_of_answers ho h hb, List.length_mapIdx, ?_⟩
  intro i e he
  have hget (es : List Entry) (he : es[i]? = some e) :
      (es.mapIdx fun i e => e.result operation i)[i]? = some (e.result operation i) := by
    rw [List.getElem?_mapIdx, he, Option.map_some]
  refine ⟨_, hget es he, keeps_result operation i e, ?_⟩
  intro others top' body' h' hb' he'
  exact ⟨_, decode_of_answers ho h' hb', hget others he'⟩

def mixedMembers : List (String × Json) :=
  [("results", .list
    [.map [("columns", .null)],
      .map [("error", .text "no such table: bar")],
      .map [("columns", .list [.text "id"]), ("types", .list [.text "INTEGER"]),
        ("values", .list [.list [.int 1], .list [.list [.map [("a", .null)]]]]),
        ("time", .int 0), ("error", .text "")],
      .map [("rows_affected", .int 2), ("last_insert_id", .int 7)]]),
    ("error", .null)]

def mixedEntries : List Entry :=
  [⟨.null, .absent, .absent, .absent, .absent, .absent, .absent⟩,
    ⟨.absent, .absent, .absent, .absent, .absent, .absent, .given "no such table: bar"⟩,
    ⟨.given ["id"], .given ["INTEGER"], .given [[.int 1], [.list [.map [("a", .null)]]]],
      .absent, .absent, .given (Double.ofInt 0), .given ""⟩,
    ⟨.absent, .absent, .absent, .given 7, .given 2, .absent, .absent⟩]

theorem mixedMembers_answers : Answers mixedMembers mixedEntries where
  unique := by decide
  results := by
    refine .given (.head _) (.cons ?_ (.cons ?_ (.cons ?_ (.cons ?_ .nil))))
    · exact .map ⟨by decide, .null (.head _), .absent (by decide), .absent (by decide),
        .absent (by decide), .absent (by decide), .absent (by decide), .absent (by decide)⟩
    · exact .map ⟨by decide, .absent (by decide), .absent (by decide), .absent (by decide),
        .absent (by decide), .absent (by decide), .absent (by decide), .given (.head _) rfl⟩
    · exact .map ⟨by decide, .given (.head _) rfl, .given (.tail _ (.head _)) rfl,
        .given (.tail _ (.tail _ (.head _))) rfl, .absent (by decide), .absent (by decide),
        .given (.tail _ (.tail _ (.tail _ (.head _)))) (.int 0),
        .given (.tail _ (.tail _ (.tail _ (.tail _ (.head _))))) rfl⟩
    · exact .map ⟨by decide, .absent (by decide), .absent (by decide), .absent (by decide),
        .given (.tail _ (.head _)) rfl, .given (.head _) rfl, .absent (by decide),
        .absent (by decide)⟩
  time := ⟨_, .absent (by decide)⟩
  sequenceNumber := ⟨_, .absent (by decide)⟩
  error := ⟨_, .null (.tail _ (.head _)), nofun⟩

theorem mixedMembers_faithful :
    Operation.request.isData = true ∧ Answers mixedMembers mixedEntries ∧
      BodyOf (.map mixedMembers) (Text.Utf8.encode (render (.map mixedMembers))) ∧
      ∃ rs, decode (Text.Utf8.encode (render (.map mixedMembers))) .request = .ok rs ∧
        rs.length = mixedEntries.length ∧
        ∀ i e, mixedEntries[i]? = some e → ∃ r, rs[i]? = some r ∧ Keeps .request i e r ∧
          ∀ others top' body', Answers top' others → BodyOf (.map top') body' →
            others[i]? = some e →
              ∃ rs', decode body' .request = .ok rs' ∧ rs'[i]? = some r :=
  have hb := bodyOf_render (j := .map mixedMembers) (by simp [mixedMembers, Floatless,
    FloatlessItems, FloatlessMembers]) (by decide +kernel) (by decide)
  ⟨rfl, mixedMembers_answers, hb, decode_faithful rfl mixedMembers_answers hb⟩

end SqlCluster.Response
