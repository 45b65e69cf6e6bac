import SqlCluster.Fault.Basic
import SqlCluster.Proofs.Response.Results
/-!
Every body settles. Whatever bytes a node answers with, they are decoded or refused as a response;
no field of an entry that was checked fails to be converted.
-/
namespace SqlCluster.Response

variable {operation : Operation} {body : List UInt8} {envelope : Envelope} {e : BodyError}

/-- Why a body is refused: it holds no envelope, or one with an error of the whole request. -/
inductive Refused (body : List UInt8) : BodyError → Prop
  | undecodable (h : (Json.answer? body).bind Envelope.ofJson? = none) :
      Refused body (.undecodable body)
  | reported {envelope : Envelope} {message : String}
      (h : (Json.answer? body).bind Envelope.ofJson? = some envelope)
      (he : envelope.error = some message) (hm : message ≠ "") : Refused body (.reported message)

theorem Refused.of_parse (h : parse body = .error e) : Refused body e := by
  rw [parse] at h
  cases hread : (Json.answer? body).bind Envelope.ofJson? with
  | none =>
      rw [hread] at h
      cases h
      exact .undecodable hread
  | some envelope =>
      cases herror : envelope.error with
      | none =>
          simp only [hread, herror] at h
          cases h
      | some message =>
          simp only [hread, herror] at h
          split at h
          · cases h
          · next hm =>
              cases h
              exact .reported hread herror hm

theorem decode_of_parse (ho : operation.isData = true) (h : parse body = .ok envelope) :
    ∃ rs, decode body operation = .ok rs ∧ rs.length = envelope.results.length := by
  rw [decode_eq ho, h]
  exact ⟨_, rfl, List.length_mapIdx⟩

theorem decode_of_refused (ho : operation.isData = true) (h : parse body = .error e) :
    decode body operation = .error (.body e) := by
  rw [decode_eq ho, h]

/-- Whatever the body, decoding gives one result an entry or refuses the body, in the same way for
every operation. All fields of an entry in an envelope that was accepted are converted. -/
theorem every_body_settles (body : List UInt8) :
    (∀ operation : Operation, operation.isData = true →
      (∃ envelope rs, parse body = .ok envelope ∧ decode body operation = .ok rs ∧
        rs.length = envelope.results.length) ∨
      ∃ e, Refused body e ∧ decode body operation = .error (.body e) ∧
        (Fault.decode (.body e)).kind = .response) ∧
    ((∃ envelope n, parse body = .ok envelope ∧ decodeQueued body = .ok n) ∨
      ∃ e, Refused body e ∧ decodeQueued body = .error e ∧
        (Fault.decode (.body e)).kind = .response) ∧
    ∀ envelope, (Json.answer? body).bind Envelope.ofJson? = some envelope →
      ∀ entry ∈ envelope.results, ∀ index : Int,
        (∃ q, Result.ofQuery? entry.fields index = .ok q) ∧
        ∃ w, Result.ofWrite? entry.fields index = .ok w := by
  refine ⟨fun operation ho => ?_, ?_, fun envelope _ entry _ index => ?_⟩
  · cases h : parse body with
    | ok envelope =>
        obtain ⟨rs, hrs, hlen⟩ := decode_of_parse ho h
        exact .inl ⟨envelope, rs, rfl, hrs, hlen⟩
    | error e => exact .inr ⟨e, .of_parse h, decode_of_refused ho h, rfl⟩
  · rw [decodeQueued]
    cases h : parse body with
    | ok envelope => exact .inl ⟨envelope, _, rfl, rfl⟩
    | error e => exact .inr ⟨e, .of_parse h, rfl, rfl⟩
  · exact ⟨⟨_, entry.ofQuery?_fields index⟩, _, entry.ofWrite?_fields index⟩

def nullColumns : List UInt8 :=
  Text.Utf8.encode "\x7b\"results\":[\x7b\"columns\":null\x7d]\x7d".toList

theorem nullColumns_settles :
    (∃ rs, decode nullColumns .request = .ok rs ∧ rs.length = 1) ∧
    ∃ q, Result.ofQuery? (Entry.mk .null .absent .absent .absent .absent .absent .absent).fields 0 =
      .ok q := by
  obtain ⟨hdecode, -, hfields⟩ := every_body_settles nullColumns
  refine ⟨?_, (hfields _ rfl _ (List.mem_singleton.mpr rfl) 0).1⟩
  rcases hdecode .request rfl with ⟨envelope, rs, hp, hrs, hlen⟩ | ⟨e, hrefused, -⟩
  · cases hp
    exact ⟨rs, hrs, hlen⟩
  · rcases hrefused with h | ⟨h, he, hm⟩
    · cases h
    · cases h
      cases he

/-- Fields that nobody checked may well fail. -/
example : write [("time", .list [.null])] 0 = .error (.field (.number (.floatType "list"))) := rfl

end SqlCluster.Response
