import LanguageClient.Message.Basic
import LanguageClient.Proofs.Json.RoundTrip
import LanguageClient.Proofs.Schema.Record
namespace LanguageClient

/-!
# Messages survive their encoding

A message that is printed, read and classified is the same message again: a request stays a request,
a notification a notification and a response a response, with what they carry.
-/

open Json.Reader (Ends)

namespace RequestId

/-- A number of 64 bits with a sign, or any string. -/
def Fits : RequestId → Prop
  | number n => -9223372036854775808 ≤ n ∧ n ≤ 9223372036854775807
  | string _ => True

theorem shape_toJson {id : RequestId} (h : id.Fits) : shape id.toJson = some id.toJson := by
  cases id with
  | number n => simp [shape, toJson, Shape.oneOf, Shape.i64, Shape.integer, h.1, h.2]
  | string s => rfl

theorem ofJson?_toJson (id : RequestId) : ofJson? id.toJson = some id := by
  cases id <;> rfl

theorem toJson_ne_null (id : RequestId) : id.toJson ≠ .null := by
  cases id <;> exact fun h => nomatch h

theorem plain_toJson {id : RequestId} (h : id.Fits) (depth : Nat) : id.toJson.Plain depth := by
  cases id with
  | number n => exact .int h.1 (by have := h.2; omega)
  | string s => exact .str s

end RequestId

namespace RpcError

/-- A code of 64 bits, and data that do not nest too deep. -/
structure Plain (depth : Nat) (e : RpcError) : Prop where
  low : -9223372036854775808 ≤ e.code
  high : e.code ≤ 9223372036854775807
  data : ∀ d ∈ e.data, Json.Plain depth d

/-- The error as its receiver sees it: data that are null count as none. -/
def arrival (e : RpcError) : RpcError := { e with data := e.data.filter fun d => !d.isNull }

def given (e : RpcError) : List (String × Option Json) :=
  [("code", some (.int e.code)), ("message", some (.str e.message)), ("data", e.data)]

theorem toJson_eq (e : RpcError) : e.toJson = .obj (Json.present e.given) := by
  obtain ⟨code, message, data⟩ := e
  cases data <;> rfl

/-- The fields of an error as they are written and read. -/
def entries {depth : Nat} {e : RpcError} (h : e.Plain depth) : List Shape.Entry :=
  [{field := Shape.required "code" Shape.i64
    given := some (.int e.code)
    normal := some (.int e.code)
    reads := by
      have hcode : Shape.i64 (.int e.code) = some (.int e.code) := if_pos ⟨h.low, h.high⟩
      exact Shape.read_given hcode (fun h => Json.noConfusion h) _ _},
    {field := Shape.required "message" Shape.string
     given := some (.str e.message)
     normal := some (.str e.message)
     reads := rfl},
    {field := Shape.optional "data" Shape.any
     given := e.data
     normal := e.arrival.data
     reads := Shape.read_any (.inl rfl) (fun d hd => (h.data d hd).canonical_eq) _}]

/-- An error is read as the error that arrives. -/
theorem shape_toJson {depth : Nat} {e : RpcError} (h : e.Plain depth) :
    ∃ j, shape e.toJson = some j ∧ ofNormal j = e.arrival := by
  have hnames : ["code", "message", "data"].Nodup := by decide
  obtain ⟨j, hj, hget⟩ := Shape.exists_record (entries h) hnames
  have hcode : j.get? "code" = some (.int e.code) := hget _ (.head _)
  have hmessage : j.get? "message" = some (.str e.message) := hget _ (.tail _ (.head _))
  have hdata : j.get? "data" = e.arrival.data := hget _ (.tail _ (.tail _ (.head _)))
  refine ⟨j, e.toJson_eq ▸ hj, ?_⟩
  simp only [ofNormal, Json.get, hcode, hmessage, hdata]
  rfl

/-- The text of an error is read back as its object. -/
theorem value?_print {depth : Nat} {e : RpcError} (h : e.Plain depth) (rest : Text) :
    Json.Reader.value? (depth + 1) outline (e.toJson.print ++ rest) = some (e.toJson, rest) := by
  have hmember : ∀ m ∈ Json.present e.given,
      outline.member? m.1 = some .whole ∧ m.2.Plain depth := by
    rintro ⟨name, value⟩ hm
    have hmem := Json.mem_present.1 hm
    simp only [given, List.mem_cons, Prod.mk.injEq, Option.some.injEq, List.not_mem_nil,
      or_false] at hmem
    rcases hmem with ⟨rfl, rfl⟩ | ⟨rfl, rfl⟩ | ⟨rfl, hdata⟩
    · exact ⟨rfl, .int h.low (by have := h.high; omega)⟩
    · exact ⟨rfl, .str _⟩
    · exact ⟨rfl, h.data value hdata.symm⟩
  rw [toJson_eq, Json.Reader.value?_obj, List.filter_eq_self.2]
  · intro m hm
    rw [(hmember m hm).1]
    rfl
  · intro m hm rest hrest
    simp only [(hmember m hm).1, Option.map_some]
    exact Json.Reader.value?_print (hmember m hm).2 hrest

end RpcError

/-! ## Members -/

/-- The members of a message, each of which may be absent. -/
structure RawMessage where
  id : Option RequestId
  method : Option String
  params : Option Json
  result : Option Json
  error : Option RpcError

namespace RawMessage

def given (m : RawMessage) : List (String × Option Json) :=
  [("id", m.id.map RequestId.toJson), ("method", m.method.map .str), ("params", m.params),
    ("result", m.result), ("error", m.error.map RpcError.toJson)]

/-- Numbers have 64 bits, and nothing nests too deep to be read within a message. -/
structure Plain (m : RawMessage) : Prop where
  id : ∀ i ∈ m.id, i.Fits
  params : ∀ v ∈ m.params, Json.Plain (Json.maxDepth - 1) v
  result : ∀ v ∈ m.result, Json.Plain (Json.maxDepth - 1) v
  error : ∀ e ∈ m.error, e.Plain (Json.maxDepth - 2)

/-- The message that these members make, as their receiver sees it. -/
def arrival (m : RawMessage) : Except ClientError IncomingMessage :=
  match m.id, m.method with
  | some id, some method => .ok (.request id method (m.params.getD .null))
  | none, some method => .ok (.notification method (m.params.getD .null))
  | some id, none =>
    match m.error with
    | some e => .ok (.response id (.error e.arrival))
    | none => .ok (.response id (.ok (m.result.getD .null)))
  | none, none => .error (.protocol "Message has neither id nor method")

/-- The version of the protocol is not looked at. -/
theorem passes_version {read : String → Option (Text → Option (Json × Text))}
    (h : read "jsonrpc" = none) : Json.Reader.Passes read ("jsonrpc", .str "2.0") := by
  intro rest _
  simp only [h]
  rfl

theorem readOutline?_print {m : RawMessage} (h : m.Plain) :
    Json.readOutline? IncomingMessage.outline
        (Json.obj (("jsonrpc", .str "2.0") :: Json.present m.given)).print =
      some (.obj (Json.present m.given)) := by
  have hmember : ∀ p ∈ Json.present m.given, ∃ o, IncomingMessage.outline.member? p.1 = some o ∧
      ∀ rest, Ends rest →
        Json.Reader.value? (Json.maxDepth - 1) o (p.2.print ++ rest) = some (p.2, rest) := by
    rintro ⟨name, value⟩ hp
    have hmem := Json.mem_present.1 hp
    simp only [given, List.mem_cons, Prod.mk.injEq, List.not_mem_nil, or_false] at hmem
    rcases hmem with ⟨rfl, hid⟩ | ⟨rfl, hmethod⟩ | ⟨rfl, hparams⟩ | ⟨rfl, hresult⟩ | ⟨rfl, herror⟩
    · obtain ⟨id, hsome, rfl⟩ := Option.map_eq_some_iff.1 hid.symm
      have hplain := RequestId.plain_toJson (h.id id hsome) (Json.maxDepth - 1)
      exact ⟨.whole, rfl, fun _ => Json.Reader.value?_print hplain⟩
    · obtain ⟨method, -, rfl⟩ := Option.map_eq_some_iff.1 hmethod.symm
      exact ⟨.whole, rfl, fun _ => Json.Reader.value?_print (.str method)⟩
    · exact ⟨.whole, rfl, fun _ => Json.Reader.value?_print (h.params value hparams.symm)⟩
    · exact ⟨.whole, rfl, fun _ => Json.Reader.value?_print (h.result value hresult.symm)⟩
    · obtain ⟨e, hsome, rfl⟩ := Option.map_eq_some_iff.1 herror.symm
      exact ⟨RpcError.outline, rfl, fun rest _ => RpcError.value?_print (h.error e hsome) rest⟩
  have hpasses : ∀ p ∈ ("jsonrpc", Json.str "2.0") :: Json.present m.given, Json.Reader.Passes
      (fun name => (IncomingMessage.outline.member? name).map
        (Json.Reader.value? (Json.maxDepth - 1))) p := by
    intro p hp
    rcases List.mem_cons.1 hp with rfl | hp
    · exact passes_version rfl
    · obtain ⟨o, ho, hread⟩ := hmember p hp
      intro rest hrest
      simp only [ho, Option.map_some]
      exact hread rest hrest
  have hkeep : (("jsonrpc", Json.str "2.0") :: Json.present m.given).filter
      (fun p => (IncomingMessage.outline.member? p.1).isSome) = Json.present m.given := by
    rw [List.filter_cons_of_neg (by decide), List.filter_eq_self]
    intro p hp
    obtain ⟨o, ho, -⟩ := hmember p hp
    rw [ho]
    rfl
  have hdepth : Json.maxDepth - 1 + 1 = Json.maxDepth := rfl
  have hvalue := Json.Reader.value?_obj hpasses []
  rw [hdepth, List.append_nil, hkeep] at hvalue
  rw [Json.readOutline?, hvalue]
  rfl

/-- What is left of an error when it has been read. -/
theorem exists_normal_error {m : RawMessage} (h : m.Plain) : ∃ normal : Option Json,
    (Shape.omittable "error" RpcError.shape).read (.of (m.error.map RpcError.toJson)) =
        some (normal.map fun v => ("error", v)).toList ∧
      normal.map RpcError.ofNormal = m.error.map RpcError.arrival := by
  cases herror : m.error with
  | none => exact ⟨none, rfl, rfl⟩
  | some e =>
    obtain ⟨j, hj, hnormal⟩ := RpcError.shape_toJson (h.error e herror)
    exact ⟨some j, Shape.read_given hj (fun h => Json.noConfusion h) _ _, congrArg some hnormal⟩

/-- The normal form of the members of a message. -/
structure Normal (m : RawMessage) (j : Json) : Prop where
  id : j.get? "id" = m.id.map RequestId.toJson
  method : j.get? "method" = m.method.map .str
  params : j.get? "params" = m.params.filter fun v => !v.isNull
  result : j.get? "result" = m.result.filter fun v => !v.isNull
  error : (j.get? "error").map RpcError.ofNormal = m.error.map RpcError.arrival

theorem exists_normal {m : RawMessage} (h : m.Plain) :
    ∃ j, IncomingMessage.shape (.obj (Json.present m.given)) = some j ∧ m.Normal j := by
  obtain ⟨error, herror, harrival⟩ := exists_normal_error h
  let entries : List Shape.Entry :=
    [{field := Shape.omittable "id" RequestId.shape
      given := m.id.map RequestId.toJson
      normal := m.id.map RequestId.toJson
      reads := by
        cases hid : m.id with
        | none => rfl
        | some id =>
          exact Shape.read_given (RequestId.shape_toJson (h.id id hid)) id.toJson_ne_null _ _},
      {field := Shape.omittable "method" Shape.string
       given := m.method.map .str
       normal := m.method.map .str
       reads := by cases m.method <;> rfl},
      {field := Shape.omittable "params" Shape.any
       given := m.params
       normal := m.params.filter fun v => !v.isNull
       reads := Shape.read_any (.inr rfl) (fun v hv => (h.params v hv).canonical_eq) _},
      {field := Shape.omittable "result" Shape.any
       given := m.result
       normal := m.result.filter fun v => !v.isNull
       reads := Shape.read_any (.inr rfl) (fun v hv => (h.result v hv).canonical_eq) _},
      {field := Shape.omittable "error" RpcError.shape
       given := m.error.map RpcError.toJson
       normal := error
       reads := herror}]
  have hnames : ["id", "method", "params", "result", "error"].Nodup := by decide
  obtain ⟨j, hj, hget⟩ := Shape.exists_record entries hnames
  have hnormal : j.get? "error" = error := hget _ (.tail _ (.tail _ (.tail _ (.tail _ (.head _)))))
  exact ⟨j, hj,
    { id := hget _ (.head _)
      method := hget _ (.tail _ (.head _))
      params := hget _ (.tail _ (.tail _ (.head _)))
      result := hget _ (.tail _ (.tail _ (.tail _ (.head _))))
      error := by rw [hnormal, harrival] }⟩

theorem getD_filter_isNull (v : Option Json) :
    (v.filter fun j => !j.isNull).getD .null = v.getD .null := by
  cases v with
  | none => rfl
  | some j => cases j <;> rfl

theorem Normal.classify {m : RawMessage} {j : Json} (h : m.Normal j) :
    IncomingMessage.classify j = m.arrival := by
  have hid : (j.get? "id").bind RequestId.ofJson? = m.id := by
    rw [h.id]
    cases m.id with
    | none => rfl
    | some id => exact id.ofJson?_toJson
  have hmethod : (j.get? "method").bind Json.str? = m.method := by
    rw [h.method]
    cases m.method <;> rfl
  have hparams : j.get "params" = m.params.getD .null := by
    rw [Json.get, h.params, getD_filter_isNull]
  have hresult : j.get "result" = m.result.getD .null := by
    rw [Json.get, h.result, getD_filter_isNull]
  have herror := h.error
  unfold IncomingMessage.classify arrival
  rw [hid, hmethod, hparams, hresult]
  cases m.id with
  | none => cases m.method <;> rfl
  | some id =>
    cases m.method with
    | some method => rfl
    | none =>
      cases hm : m.error with
      | none =>
        rw [hm, Option.map_none, Option.map_eq_none_iff] at herror
        simp only [herror]
      | some e =>
        rw [hm, Option.map_some, Option.map_eq_some_iff] at herror
        obtain ⟨normal, hnormal, harrival⟩ := herror
        simp only [hnormal, harrival]

theorem parse_print {m : RawMessage} (h : m.Plain) :
    IncomingMessage.parse
      (Json.obj (("jsonrpc", .str "2.0") :: Json.present m.given)).print = m.arrival := by
  obtain ⟨j, hj, hnormal⟩ := exists_normal h
  rw [IncomingMessage.parse, readOutline?_print h, Option.bind_some, hj]
  exact hnormal.classify

end RawMessage

/-! ## Sent messages -/

namespace OutgoingMessage

def raw : OutgoingMessage → RawMessage
  | request id method params => ⟨some id, some method, params, none, none⟩
  | notification method params => ⟨none, some method, params, none, none⟩
  | response id (.ok result) => ⟨some id, none, none, some result, none⟩
  | response id (.error e) => ⟨some id, none, none, none, some e⟩

theorem toJson_eq (m : OutgoingMessage) :
    m.toJson = .obj (("jsonrpc", .str "2.0") :: Json.present m.raw.given) := by
  rcases m with ⟨id, method, _ | params⟩ | ⟨method, _ | params⟩ | ⟨id, e | result⟩ <;> rfl

/-- What a program can send. -/
inductive Plain : OutgoingMessage → Prop where
  | request {id : RequestId} {method : String} {params : Option Json} (hid : id.Fits)
      (hparams : ∀ p ∈ params, Json.Plain (Json.maxDepth - 1) p) :
      Plain (.request id method params)
  | notification {method : String} {params : Option Json}
      (hparams : ∀ p ∈ params, Json.Plain (Json.maxDepth - 1) p) :
      Plain (.notification method params)
  | result {id : RequestId} {result : Json} (hid : id.Fits)
      (hresult : Json.Plain (Json.maxDepth - 1) result) : Plain (.response id (.ok result))
  | error {id : RequestId} {error : RpcError} (hid : id.Fits)
      (herror : error.Plain (Json.maxDepth - 2)) : Plain (.response id (.error error))

/-- The message as its receiver sees it. -/
def arrival : OutgoingMessage → IncomingMessage
  | request id method params => .request id method (params.getD .null)
  | notification method params => .notification method (params.getD .null)
  | response id (.ok result) => .response id (.ok result)
  | response id (.error e) => .response id (.error e.arrival)

theorem plain_raw {m : OutgoingMessage} (h : m.Plain) : m.raw.Plain := by
  have hsome {α : Type} {p : α → Prop} {a : α} (ha : p a) : ∀ b ∈ some a, p b := by
    rintro _ ⟨⟩
    exact ha
  cases h with
  | request hid hparams => exact ⟨hsome hid, hparams, nofun, nofun⟩
  | notification hparams => exact ⟨nofun, hparams, nofun, nofun⟩
  | result hid hresult => exact ⟨hsome hid, nofun, hsome hresult, nofun⟩
  | error hid herror => exact ⟨hsome hid, nofun, nofun, hsome herror⟩

theorem arrival_raw (m : OutgoingMessage) : m.raw.arrival = .ok m.arrival := by
  rcases m with ⟨id, method, params⟩ | ⟨method, params⟩ | ⟨id, e | result⟩ <;> rfl

theorem parse_body {m : OutgoingMessage} (h : m.Plain) :
    IncomingMessage.parse m.body = .ok m.arrival := by
  rw [body, toJson_eq, RawMessage.parse_print (plain_raw h), arrival_raw]

/-- Parameters whose text nests and needs escapes. -/
def knotted : Json := .obj [("a", .arr [.int (-1), .null]), ("b", .str "\x01\\")]

theorem plain_knotted (depth : Nat) : knotted.Plain (depth + 2) := by
  refine .obj (fun m hm => ?_) (by decide)
  simp only [List.mem_cons, List.not_mem_nil, or_false] at hm
  rcases hm with rfl | rfl
  · refine .arr fun v hv => ?_
    simp only [List.mem_cons, List.not_mem_nil, or_false] at hv
    rcases hv with rfl | rfl
    · exact .int (by decide) (by decide)
    · exact .null
  · exact .str _

theorem parse_body_knotted :
    (request (.number (-7)) "say \"x\"\n" (some knotted)).Plain ∧
      IncomingMessage.parse (request (.number (-7)) "say \"x\"\n" (some knotted)).body =
        .ok (.request (.number (-7)) "say \"x\"\n" knotted) := by
  have hplain : (request (.number (-7)) "say \"x\"\n" (some knotted)).Plain :=
    .request ⟨by decide, by decide⟩ (by rintro _ ⟨⟩; exact plain_knotted _)
  exact ⟨hplain, parse_body hplain⟩

end OutgoingMessage

end LanguageClient
