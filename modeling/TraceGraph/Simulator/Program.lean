import TraceGraph.Json

/-! The program that the simulator pretends to trace. It has one main activity and a growing pool of
workers and channels; each batch adds a worker and a channel with some traffic. Ids count up over all
programs, so one that starts anew never uses an id again. -/

namespace TraceGraph

structure Program where
  /-- The picks to come; when they are used up each pick is 0. -/
  picks : List Int
  lastId : Int
  mainId : Option Int
  workers : List Int
  channels : List Int
  deriving DecidableEq

namespace Program

/-! ### Entity types and operations of the simulated runtime -/

def actorType : Int := 1

def channelType : Int := 2

def transactionType : Int := 3

def actorMessage : Int := 10

def channelSend : Int := 11

def channelReceive : Int := 12

/-- The capabilities of the simulated runtime. -/
def capabilities : Json := .object [
  ("activities", .list [.object [("id", .int actorType), ("label", .text "Actor")]]),
  ("passiveEntities", .list [.object [("id", .int channelType), ("label", .text "Channel")]]),
  ("dynamicScopes", .list [.object [("id", .int transactionType), ("label", .text "Transaction")]]),
  ("sendOps", .list [
    .object [("marker", .int actorMessage), ("entity", .int 0), ("target", .int actorType),
      ("label", .text "ActorMessage")],
    .object [("marker", .int channelSend), ("entity", .int 0), ("target", .int channelType),
      ("label", .text "ChannelSend")]]),
  ("receiveOps", .list [.object [("marker", .int channelReceive), ("source", .int channelType)]])]

/-- Where every channel is created. -/
def channelOrigin : Json := .object [
  ("uri", .text "file:///demo/pipeline.ns"), ("start_line", .int 12), ("start_column", .int 5),
  ("char_length", .int 18)]

/-! ### Batches -/

def new (picks : List Int) : Program := ⟨picks, 0, none, [], []⟩

/-- Forget the program, so that the next batch announces a new main activity. -/
def restart (p : Program) : Program := { p with mainId := none, workers := [], channels := [] }

/-- The worker that the next pick selects, counted around; without workers it is `first`. -/
def pick (p : Program) (first : Int) : Int :=
  p.workers.getD (p.picks.headD 0 % p.workers.length).toNat first

def activityJson (id : Int) (name : String) (creator : Option Int) : Json :=
  .object [("id", .int id), ("name", .text name), ("type", .int actorType),
    ("creation_activity_id", .ofInt? creator)]

def operationJson (type performer : Int) (counterpart : String) (other : Int) : Json :=
  .object [("type", .int type), ("creation_activity_id", .int performer), (counterpart, .int other)]

/-- The next batch: a new main activity if the program has none, a worker and a channel, a message from
the main activity to a picked worker, a message from that worker into the channel, and one that the main
activity receives from it. -/
def nextBatch (p : Program) : Program × Json :=
  let mainId := p.mainId.getD (p.lastId + 1)
  let announced := match p.mainId with
    | some _ => []
    | none => [activityJson mainId "Main" none]
  let lastId := match p.mainId with
    | some _ => p.lastId
    | none => p.lastId + 1
  let worker := lastId + 1
  let channel := lastId + 2
  let p := { p with
    mainId := some mainId
    lastId := lastId + 2
    workers := p.workers ++ [worker]
    channels := p.channels ++ [channel] }
  let target := p.pick worker
  ({ p with picks := p.picks.tail },
    .object [
      ("activities", .list (announced ++ [activityJson worker "Worker" (some mainId)])),
      ("passive_entities", .list [.object [("id", .int channel), ("type", .int channelType),
        ("origin", channelOrigin), ("creation_activity_id", .int mainId)]]),
      ("send_ops", .list [operationJson actorMessage mainId "target_id" target,
        operationJson channelSend target "target_id" channel]),
      ("receive_ops", .list [operationJson channelReceive mainId "source_id" channel])])

end Program

end TraceGraph
