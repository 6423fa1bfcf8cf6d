import Dk64Port.Archipelago.CampaignDurable
import Dk64Port.Archipelago.StageNative

/-!
# The channel to the journal (`native/campaign_channel.cpp`)

One worker owns the journal. The game thread and the protocol workers hand it updates and requests
through one slot each, without ever waiting for it: a call that finds its own update in the slot
returns what the worker made of it, any other call is told to retry. The worker drops the lock while
it runs the journal.

* `Impl.work`: the worker, one step for each section it runs with or without the lock.
* `Impl.tryReceive`, `Impl.tryRecord`, `Impl.trySnapshot`, `Impl.tryStage`: the calls.
* `channelStep`: one section of the worker or one call, on the channel with a log of what was
  submitted and what was run.

`stop`, a second `start` and the blocking adapters are not in the model.
-/

namespace Dk64Port.Archipelago

open ByteLayout (Byte)

/-- `CampaignChannelResult`. -/
inductive CampaignChannelResult where
  | ready
  | retry
  | unbound
  | rejected
  | unavailable
deriving DecidableEq

/-- The counters of the updates and of the requests. -/
abbrev Generation := BitVec 64

/-- `CampaignDurableSnapshot`. -/
structure CampaignDurableSnapshot where
  receiptCount : Nat := 0
  observed : CheckSet := 0

/-- What is published of the journal. -/
def JournalStorage.durable (state : JournalStorage) : CampaignDurableSnapshot where
  receiptCount := state.state.items.length
  observed := state.state.observed

/-- Where the worker is, with its journal and the locals of its loop. -/
inductive Worker where
  /-- Before the constructor of the journal, which gives `journal` or throws. -/
  | loading (journal : Option JournalStorage)
  | opened (state : JournalStorage)
  | waiting (state : JournalStorage)
  | updating (state : JournalStorage) (call : Option JournalCall) (generation : Generation)
  | updated (state : JournalStorage) (generation : Generation) (result : CampaignChannelResult)
    (durable : CampaignDurableSnapshot)
  | staging (state : JournalStorage) (identity : CampaignSave) (generation : Generation)
  | staged (state : JournalStorage) (snapshot : Option CampaignStageSnapshot)
    (result : CampaignChannelResult) (generation : Generation)
  | gone

/-- `CampaignChannel::Impl`. `update` is `update_kind` with its operands, and `cached` is `none` for
the snapshot without contents. -/
structure Impl where
  status : CampaignChannelResult := .retry
  requested : CampaignSave := {}
  requestGeneration : Generation := 0
  completedGeneration : Generation := 0
  requestPending : Bool := false
  completedResult : CampaignChannelResult := .retry
  cached : Option CampaignStageSnapshot := none
  update : Option JournalCall := none
  updateGeneration : Generation := 0
  completedUpdateGeneration : Generation := 0
  updatePending : Bool := false
  completedUpdateResult : CampaignChannelResult := .retry
  durable : CampaignDurableSnapshot := {}
  worker : Worker

/-! ## The worker -/

section Worker

variable (pf : Platform) (cat : Catalog) (t : LocationTable)

/-- The update is run; an update of no kind is refused. -/
def execute (state : JournalStorage) : Option JournalCall → CampaignChannelResult × JournalStorage
  | none => (.rejected, state)
  | some call =>
    match call.perform pf cat t state with
    | (.ok _, state) => (.ready, state)
    | (.error _, state) => (.rejected, state)

/-- What a request comes to. -/
def stageResult (state : JournalStorage) (identity : CampaignSave) :
    CampaignChannelResult × Option CampaignStageSnapshot :=
  match state.state.stage cat identity with
  | .ok (some staged) => (.ready, some staged)
  | .ok none => (.unbound, none)
  | .error _ => (.rejected, none)

/-- The worker has the lock again after an update. -/
def Impl.completeUpdate (s : Impl) (generation : Generation) (result : CampaignChannelResult)
    (durable : CampaignDurableSnapshot) : Impl :=
  if generation = s.updateGeneration then
    let s := { s with completedUpdateResult := result, completedUpdateGeneration := generation }
    if result = .ready ∧ s.requestGeneration ≠ 0 then
      { s with durable := durable, completedGeneration := 0, requestPending := true }
    else if result = .ready then { s with durable := durable }
    else s
  else s

/-- The worker has the lock again after a request. -/
def Impl.completeRequest (s : Impl) (snapshot : Option CampaignStageSnapshot)
    (result : CampaignChannelResult) (generation : Generation) : Impl :=
  if generation = s.requestGeneration then
    { s with cached := snapshot, completedResult := result, completedGeneration := generation }
  else s

/-- One section of the worker. -/
def Impl.work (s : Impl) : Impl :=
  match s.worker with
  | .loading none => { s with status := .unavailable, worker := .gone }
  | .loading (some state) => { s with durable := state.durable, worker := .opened state }
  | .opened state => { s with status := .ready, worker := .waiting state }
  | .waiting state =>
    if s.updatePending then
      { s with updatePending := false, worker := .updating state s.update s.updateGeneration }
    else if s.requestPending then
      { s with requestPending := false, worker := .staging state s.requested s.requestGeneration }
    else s
  | .updating state call generation =>
    let r := execute pf cat t state call
    { s with worker := .updated r.2 generation r.1 (if r.1 = .ready then r.2.durable else {}) }
  | .updated state generation result durable =>
    { s.completeUpdate generation result durable with worker := .waiting state }
  | .staging state identity generation =>
    let r := stageResult cat state identity
    { s with worker := .staged state r.2 r.1 generation }
  | .staged state snapshot result generation =>
    { s.completeRequest snapshot result generation with worker := .waiting state }
  | .gone => s

end Worker

/-! ## The calls -/

/-- Which of its two locks a call gets. -/
structure Locks where
  lifetime : Bool := true
  mutex : Bool := true

/-- What a call returns before it has both locks. -/
def Impl.turnedAway (s : Impl) (locks : Locks) : Option CampaignChannelResult :=
  if !locks.lifetime then some .retry
  else if s.status ≠ .ready then some s.status
  else if !locks.mutex then some .retry
  else none

/-- The slot takes an update. -/
def Impl.accept (s : Impl) (call : JournalCall) : Impl :=
  { s with
    update := some call
    updateGeneration := s.updateGeneration + 1
    updatePending := true
    completedUpdateResult := .retry }

/-- The slot takes a request. -/
def Impl.ask (s : Impl) (identity : CampaignSave) : Impl :=
  { s with
    requested := identity
    requestGeneration := s.requestGeneration + 1
    requestPending := true
    completedResult := .retry }

/-- The part of `try_receive` and `try_record` behind the locks. -/
def Impl.submit (s : Impl) (call : JournalCall) : Impl × CampaignChannelResult :=
  if s.updateGeneration ≠ 0 ∧ s.completedUpdateGeneration ≠ s.updateGeneration then (s, .retry)
  else if s.updateGeneration = 0 ∨ s.update ≠ some call then (s.accept call, .retry)
  else (s, s.completedUpdateResult)

/-- Either of the two. -/
def Impl.tryUpdate (s : Impl) (locks : Locks) (call : JournalCall) : Impl × CampaignChannelResult :=
  match s.turnedAway locks with
  | some result => (s, result)
  | none => s.submit call

/-- `try_receive`. -/
def Impl.tryReceive (s : Impl) (locks : Locks) (index : Nat) (items : List Item) :
    Impl × CampaignChannelResult :=
  if index > itemLimit ∨ items.length > itemLimit - index then (s, .rejected)
  else s.tryUpdate locks (.receive index items)

/-- `try_record`. -/
def Impl.tryRecord (s : Impl) (locks : Locks) (checks : CheckSet) : Impl × CampaignChannelResult :=
  s.tryUpdate locks (.record checks)

/-- `try_snapshot`, with what it writes to its output. -/
def Impl.trySnapshot (s : Impl) (locks : Locks) :
    CampaignChannelResult × Option CampaignDurableSnapshot :=
  match s.turnedAway locks with
  | some result => (result, none)
  | none => (.ready, some s.durable)

/-- `try_stage`, with what it writes to its output. -/
def Impl.tryStage (s : Impl) (locks : Locks) (identity : CampaignSave) :
    Impl × CampaignChannelResult × Option CampaignStageSnapshot :=
  match s.turnedAway locks with
  | some result => (s, result, none)
  | none =>
    if s.requestGeneration = 0 ∨ identity ≠ s.requested then (s.ask identity, .retry, none)
    else if s.completedGeneration ≠ s.requestGeneration then (s, .retry, none)
    else (s, s.completedResult, if s.completedResult = .ready then s.cached else none)

/-- A section of the worker, or a call. -/
inductive ChannelEvent where
  | work
  | receive (locks : Locks) (index : Nat) (items : List Item)
  | record (locks : Locks) (checks : CheckSet)
  | snapshot (locks : Locks)
  | stage (locks : Locks) (identity : CampaignSave)

/-- An update that the worker ran. -/
structure Execution where
  generation : Generation
  call : JournalCall
  result : CampaignChannelResult

/-- The channel with what happened so far: the updates that were given a generation, the ones that
were run, and the number of requests that were given a generation. -/
structure ChannelTrace where
  impl : Impl
  submitted : List JournalCall := []
  executed : List Execution := []
  requests : Nat := 0

section Trace

variable (pf : Platform) (cat : Catalog) (t : LocationTable)

/-- The update that the next section of the worker runs. -/
def Impl.execution (s : Impl) : List Execution :=
  match s.worker with
  | .updating state (some call) generation =>
    [{ generation := generation, call := call, result := (execute pf cat t state (some call)).1 }]
  | _ => []

/-- The channel after a call that may have submitted `call`. -/
def ChannelTrace.submitting (T : ChannelTrace) (impl : Impl) (call : JournalCall) : ChannelTrace :=
  { T with
    impl := impl
    submitted :=
      if impl.updateGeneration = T.impl.updateGeneration then T.submitted else T.submitted ++ [call] }

/-- One event. -/
def channelStep (T : ChannelTrace) : ChannelEvent → ChannelTrace
  | .work =>
    { T with impl := T.impl.work pf cat t, executed := T.executed ++ T.impl.execution pf cat t }
  | .receive locks index items =>
    T.submitting (T.impl.tryReceive locks index items).1 (.receive index items)
  | .record locks checks => T.submitting (T.impl.tryRecord locks checks).1 (.record checks)
  | .snapshot _ => T
  | .stage locks identity =>
    let impl := (T.impl.tryStage locks identity).1
    { T with
      impl := impl
      requests :=
        if impl.requestGeneration = T.impl.requestGeneration then T.requests else T.requests + 1 }

end Trace

/-- `start`. -/
def ChannelTrace.start (journal : Option JournalStorage) : ChannelTrace where
  impl := { worker := .loading journal }

end Dk64Port.Archipelago
