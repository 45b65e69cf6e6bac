import SqlCluster.Connection.Basic
/-!
The operations on a connection. Statements are prepared, sent as one batch and their results read;
settings change for the operations that follow.
-/
namespace SqlCluster

/-- What a batch is for. Queued writes are only acknowledged. -/
inductive BatchKind where
  | query
  | write
  | queue
  | request
  deriving DecidableEq, Repr

def BatchKind.operation : BatchKind → Operation
  | .query => .query
  | .write => .execute
  | .queue => .execute
  | .request => .request

inductive Step where
  | batch (kind : BatchKind) (items : List Item)
  | single (kind : BatchKind) (item : Item) (parameters : List Value)
  | «open»
  | enter
  | exit
  | close
  | leader
  | peers
  | refresh
  | setLevel (v : Value)
  | setTransaction (v : Value)
  | setQueuedWrites (v : Value)
  | level
  | config
  | describe
  deriving Repr

inductive Reply where
  | done
  | itself
  | results (rs : List Result)
  | result (r : Result)
  | queued (sequenceNumber : Int)
  | topology (t : Topology)
  | text (s : String)
  | texts (ss : List String)
  | config (c : Config)
  deriving Repr

variable {σ : Type}

def World.announce (w : World σ) (s : Statement) : World σ :=
  if s.warning = "" then w
  else w.log .debug .statement
    ("statement " ++ s.template.toValue.literal ++ ": " ++ s.warning)

namespace Connection

def prepare : List Item → World σ → Except Fault (List Statement) × World σ
  | [], w => (.ok [], w)
  | i :: is, w =>
      match i.statement? with
      | .error e => (.error (.batch e), w)
      | .ok s =>
          let w := match i with
            | .plain _ => w.announce s
            | _ => w
          match prepare is w with
          | (.ok ss, w) => (.ok (s :: ss), w)
          | r => r

def made (template : Template) (parameters : List Value) (w : World σ) :
    Except Fault Statement × World σ :=
  let s : Statement := ⟨template, parameters⟩
  (.ok s, w.announce s)

def single (item : Item) (parameters : List Value) (w : World σ) : Except Fault Statement × World σ :=
  match item with
  | .prepared s =>
      if parameters.isEmpty then (.ok s, w) else (.error .parametersAlongside, w)
  | .plain template => made template parameters w
  | .other (.bytes .fixed _) => (.error .bytesTemplate, w)
  | .other (.bytes .growing _) => (.error .bytesTemplate, w)
  | .other v => match Template.ofValue? v with
      | some template => made template parameters w
      | none => (.error (.notTemplate v.qualifiedTypeName), w)

def send (serve : Http.Server σ) (c : Connection) (kind : BatchKind) (batch : List Statement)
    (w : World σ) : Except Fault (List UInt8) × World σ :=
  match c.requireExecutor with
  | .error f => (.error f, w)
  | .ok x =>
      let w := w.note c.tracer
        (kind.operation.name ++ " of " ++ toString batch.length ++ " statement(s)")
      match Statement.encodeAll c.room batch with
      | .error e => (.error (.batch (.encoding e)), w)
      | .ok cs =>
          x.execute serve kind.operation (Text.Utf8.encode cs) (decide (kind = .queue)) w

def decode (kind : BatchKind) (body : List UInt8) : Except Fault Reply :=
  match kind with
  | .queue => match Response.decodeQueued body with
      | .ok n => .ok (.queued n)
      | .error e => .error (.decode (.body e))
  | kind => match Response.decode body kind.operation with
      | .ok rs => .ok (.results rs)
      | .error e => .error (.decode e)

def nothing : BatchKind → Reply
  | .queue => .queued 0
  | _ => .results []

def runBatch (serve : Http.Server σ) (c : Connection) (kind : BatchKind) (items : List Item)
    (w : World σ) : Except Fault Reply × World σ :=
  if c.closed then (.error .closed, w)
  else match prepare items w with
    | (.error f, w) => (.error f, w)
    | (.ok [], w) => (.ok (nothing kind), w)
    | (.ok (s :: ss), w) =>
        match c.send serve kind (s :: ss) w with
        | (.error f, w) => (.error f, w)
        | (.ok body, w) => (decode kind body, w)

def onlyResult (s : Statement) : List Result → Except Fault Reply
  | [r] => if r.isOk then .ok (.result r) else .error (.statement r.error s.template.toValue)
  | rs => .error (.resultCount rs.length)

def runSingle (serve : Http.Server σ) (c : Connection) (kind : BatchKind) (item : Item)
    (parameters : List Value) (w : World σ) : Except Fault Reply × World σ :=
  match single item parameters w with
  | (.error f, w) => (.error f, w)
  | (.ok s, w) =>
      match c.runBatch serve kind [.prepared s] w with
      | (.ok (.results rs), w) => (onlyResult s rs, w)
      | r => r

def change (c : Connection) (o : Options) : Except Fault Reply × Connection :=
  match c.config.withOptions o with
  | .ok config => (.ok .done, { c with config := config })
  | .error e => (.error (.config e), c)

def setLevel (c : Connection) (v : Value) : Except Fault Reply × Connection :=
  match Config.levelOf v with
  | .ok l => c.change { level := some l }
  | .error e => (.error (.config e), c)

def unlessClosed (c : Connection) (f : Except Fault Reply × Connection) :
    Except Fault Reply × Connection :=
  if c.closed then (.error .closed, c) else f

def leaderText (t : Topology) : String :=
  match t.leader with
  | some p => p.address
  | none => ""

def mapReply {α : Type} (f : α → Reply) (r : Except Fault α × Connection × World σ) :
    Except Fault Reply × Connection × World σ :=
  (r.1.map f, r.2)

def run (serve : Http.Server σ) (c : Connection) (step : Step) (w : World σ) :
    Except Fault Reply × Connection × World σ :=
  match step with
  | .batch kind items =>
      let r := c.runBatch serve kind items w
      (r.1, c, r.2)
  | .single kind item parameters =>
      let r := c.runSingle serve kind item parameters w
      (r.1, c, r.2)
  | .open => mapReply (fun _ => .itself) (c.open serve w)
  | .enter => mapReply (fun _ => .itself) (c.enter serve w)
  | .exit => (.ok .done, c.close w)
  | .close => (.ok .done, c.close w)
  | .leader => mapReply (fun t => .text (leaderText t)) (c.refresh serve w)
  | .peers => mapReply (fun t => .texts (t.peers.map Peer.address)) (c.refresh serve w)
  | .refresh => mapReply .topology (c.refresh serve w)
  | .setLevel v => let r := c.unlessClosed (c.setLevel v); (r.1, r.2, w)
  | .setTransaction v =>
      let r := c.unlessClosed (c.change { transaction := some (.bool v.isTruthy) }); (r.1, r.2, w)
  | .setQueuedWrites v =>
      let r := c.unlessClosed (c.change { queuedWrites := some (.bool v.isTruthy) }); (r.1, r.2, w)
  | .level => let r := c.unlessClosed (.ok (.text c.config.level.name), c); (r.1, r.2, w)
  | .config => (.ok (.config c.config), c, w)
  | .describe => (.ok (.text c.describe), c, w)

end Connection

end SqlCluster
