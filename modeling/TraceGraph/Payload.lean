import TraceGraph.Event
import TraceGraph.Numeral.Loose
import TraceGraph.Validation

/-! Payloads: the JSON form of batches and positions, and the check of an incoming value against it.
The check is lenient with numbers and truth values written in another way, and ignores fields that it
does not know. -/

namespace TraceGraph.Payload

open Checked

/-- An integer, also given as a truth value, an integral float or a text. -/
def integer (v : Json) : Checked Int :=
  match v with
  | .int n => pass n
  | .bool b => pass (if b then 1 else 0)
  | .text s =>
    match Numeral.looseInteger s with
    | .ok n => pass n
    | .error .unreadable => refuse .unreadableInteger v
    | .error .oversized => refuse .oversizedInteger v
  | .illFormed _ => refuse .illFormedText v
  | .float x =>
    if !x.isFinite then refuse .notFinite v
    else match x.toInt? with
      | none => refuse .fractionalInteger v
      | some n => if -Int.pow 2 63 < n ∧ n < Int.pow 2 63 then pass n else refuse .oversizedInteger v
  | _ => refuse .notInteger v

/-- A text. Names and places of things are well formed, so one with an unpaired surrogate is refused. -/
def text (v : Json) : Checked String :=
  match v with
  | .text s => pass s
  | .illFormed _ => refuse .illFormedText v
  | _ => refuse .notText v

/-- The words for truth and falsehood. -/
def booleanWords : List (String × Bool) :=
  [("0", false), ("off", false), ("f", false), ("false", false), ("n", false), ("no", false),
    ("1", true), ("on", true), ("t", true), ("true", true), ("y", true), ("yes", true)]

def booleanOfInt? (n : Int) : Option Bool :=
  if n = 0 then some false else if n = 1 then some true else none

/-- A truth value, also given as 0 or 1 or as a word in any case. Numbers outside 64 bits, like floats
with places, do not even come into question. -/
def boolean (v : Json) : Checked Bool :=
  let read (b? : Option Bool) : Checked Bool := match b? with
    | some b => pass b
    | none => refuse .unreadableBoolean v
  match v with
  | .bool b => pass b
  | .text s => read (booleanWords.lookup (String.ofList (s.toList.map Char.toLower)))
  | .illFormed _ => refuse .illFormedText v
  | .int n => if -Int.pow 2 63 ≤ n ∧ n < Int.pow 2 63 then read (booleanOfInt? n) else refuse .notBoolean v
  | .float x =>
    match x.toInt? with
    | some n => if -Int.pow 2 63 < n ∧ n < Int.pow 2 63 then read (booleanOfInt? n) else refuse .notBoolean v
    | none => refuse .notBoolean v
  | _ => refuse .notBoolean v

/-- A float, also given as another number or as a text. -/
def real (v : Json) : Checked Binary64 :=
  match v with
  | .float x => pass x
  | .bool b => pass (Binary64.ofInt (if b then 1 else 0))
  | .int n =>
    match Binary64.ofInt n with
    | .infinite _ => refuse .notReal v
    | x => pass x
  | .text s =>
    match Numeral.looseReal? s with
    | some x => pass x
    | none => refuse .unreadableReal v
  | .illFormed _ => refuse .illFormedText v
  | _ => refuse .notReal v

def integer? : Json → Checked (Option Int)
  | .null => pass none
  | v => (integer v).map some

/-- How a value is refused that is no object where one of a named form is needed. A payload that is
checked by itself names the form, a request body does not. -/
abbrev Refusal := String → Problem

def byItself : Refusal := .notInstance

def asBody : Refusal := fun _ => .noFields

def fields (refusal : Refusal) (form : String) (check : List (String × Json) → Checked α) :
    Json → Checked α
  | .object ms => check ms
  | v => refuse (refusal form) v

def activity (refusal : Refusal) : Json → Checked Activity :=
  fields refusal "ActivityPayload" fun ms =>
    Activity.mk <$> required ms "id" integer
      <*> required ms "name" text
      <*> required ms "type" integer
      <*> optional ms "creation_activity_id" none integer?
      <*> optional ms "running" true boolean

def sourceRange (refusal : Refusal) : Json → Checked SourceRange :=
  fields refusal "SourceCoordinatePayload" fun ms =>
    SourceRange.mk <$> required ms "uri" text
      <*> required ms "start_line" integer
      <*> required ms "start_column" integer
      <*> required ms "char_length" integer

def passiveEntity (refusal : Refusal) : Json → Checked PassiveEntity :=
  fields refusal "PassiveEntityPayload" fun ms =>
    PassiveEntity.mk <$> required ms "id" integer
      <*> required ms "type" integer
      <*> required ms "origin" (sourceRange refusal)
      <*> required ms "creation_activity_id" integer

def sendOp (refusal : Refusal) : Json → Checked SendOp :=
  fields refusal "SendOpPayload" fun ms =>
    SendOp.mk <$> required ms "type" integer
      <*> required ms "creation_activity_id" integer
      <*> required ms "target_id" integer

def receiveOp (refusal : Refusal) : Json → Checked ReceiveOp :=
  fields refusal "ReceiveOpPayload" fun ms =>
    ReceiveOp.mk <$> required ms "type" integer
      <*> required ms "creation_activity_id" integer
      <*> required ms "source_id" integer

/-- A batch; absent lists are empty. -/
def batch (refusal : Refusal) : Json → Checked Batch :=
  fields refusal "TraceDataRequest" fun ms =>
    Batch.mk <$> optional ms "activities" [] (list (activity refusal))
      <*> optional ms "passive_entities" [] (list (passiveEntity refusal))
      <*> optional ms "send_ops" [] (list (sendOp refusal))
      <*> optional ms "receive_ops" [] (list (receiveOp refusal))

/-- The two coordinates of a position. -/
def position (refusal : Refusal) : Json → Checked (Binary64 × Binary64) :=
  fields refusal "PositionRequest" fun ms =>
    Prod.mk <$> required ms "x" real <*> required ms "y" real

/-! ### The plain form -/

def ofActivity (a : Activity) : Json :=
  .object [("id", .int a.id), ("name", .text a.name), ("type", .int a.type),
    ("creation_activity_id", .ofInt? a.creator), ("running", .bool a.running)]

def ofSourceRange (r : SourceRange) : Json :=
  .object [("uri", .text r.uri), ("start_line", .int r.startLine),
    ("start_column", .int r.startColumn), ("char_length", .int r.charLength)]

def ofPassiveEntity (e : PassiveEntity) : Json :=
  .object [("id", .int e.id), ("type", .int e.type), ("origin", ofSourceRange e.origin),
    ("creation_activity_id", .int e.creator)]

def ofSendOp (s : SendOp) : Json :=
  .object [("type", .int s.type), ("creation_activity_id", .int s.performer),
    ("target_id", .int s.target)]

def ofReceiveOp (r : ReceiveOp) : Json :=
  .object [("type", .int r.type), ("creation_activity_id", .int r.performer),
    ("source_id", .int r.source)]

def ofBatch (b : Batch) : Json :=
  .object [("activities", .list (b.activities.map ofActivity)),
    ("passive_entities", .list (b.passiveEntities.map ofPassiveEntity)),
    ("send_ops", .list (b.sends.map ofSendOp)),
    ("receive_ops", .list (b.receives.map ofReceiveOp))]

end TraceGraph.Payload
