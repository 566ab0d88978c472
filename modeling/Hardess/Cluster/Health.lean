import Hardess.Lib.JsMap
import Hardess.Lib.JsNumber
import Hardess.Lib.JsString

/-!
# Peer health

`src/runtime/cluster/health.ts`: what a node believes of its peers. Local observations
and rumors of other nodes move an entry between `alive`, `suspect` and `dead`; a suspect
entry has a timer that declares it dead.

* `ClusterPeerHealthStore` and its operations, with the timers it has armed, the clock and
  the snapshots handed to its listeners as part of the state;
* `ClusterPeerHealthStore.step`: the store as a machine on calls, timers and the clock.
-/

namespace Hardess

/-- `ClusterPeerHealthStatus`. -/
inductive ClusterPeerHealthStatus
  | unknown
  | alive
  | suspect
  | dead
  deriving DecidableEq

/-- `Exclude<ClusterPeerHealthStatus, "unknown">`. -/
inductive ReportedStatus
  | alive
  | suspect
  | dead
  deriving DecidableEq

/-- A reported status as a status. -/
def ReportedStatus.toStatus : ReportedStatus → ClusterPeerHealthStatus
  | .alive => .alive
  | .suspect => .suspect
  | .dead => .dead

/-- `ClusterPeerHealthSource`: `"local"` or `"remote"`. -/
inductive ClusterPeerHealthSource
  | localSource
  | remoteSource
  deriving DecidableEq

/-- `ClusterPeerHealthRumor`. -/
structure ClusterPeerHealthRumor where
  nodeId : JsString
  status : ReportedStatus
  incarnation : JsNumber
  lastAliveAt : Option JsNumber := none
  deriving DecidableEq

/-- `ClusterPeerHealthSnapshot`. -/
structure ClusterPeerHealthSnapshot where
  nodeId : JsString
  status : ClusterPeerHealthStatus
  incarnation : JsNumber
  updatedAt : ℕ
  lastAliveAt : Option JsNumber := none
  detail : Option JsString := none
  source : ClusterPeerHealthSource
  reportedByNodeId : Option JsString := none
  deriving DecidableEq

/-- `ClusterPeerHealthEntry`. -/
structure ClusterPeerHealthEntry extends ClusterPeerHealthSnapshot where
  deadTimer : Option ℕ := none
  deriving DecidableEq

/-- A pending `setTimeout`: what its callback captured, and when it is due. -/
structure DeadTimer where
  nodeId : JsString
  detail : Option JsString
  expiresAt : ℕ
  deriving DecidableEq

/-- `ClusterPeerHealthStore`, with the pending timers, the clock that `now()` reads and the
snapshots that listeners have been given. -/
structure ClusterPeerHealthStore where
  suspectTimeoutMs : ℕ
  entries : JsMap JsString ClusterPeerHealthEntry
  knownPeerNodeIds : Option (List JsString)
  timers : JsMap ℕ DeadTimer
  nextTimeout : ℕ
  clock : ℕ
  emitted : List ClusterPeerHealthSnapshot

namespace ClusterPeerHealthStore

/-- The constructor. -/
def create (suspectTimeoutMs clock : ℕ) : ClusterPeerHealthStore :=
  ⟨suspectTimeoutMs, .empty, none, .empty, 0, clock, []⟩

variable (st : ClusterPeerHealthStore)

/-! ### Private parts -/

/-- `isUnknownPeer`. -/
def isUnknownPeer (nodeId : JsString) : Bool :=
  match st.knownPeerNodeIds with
  | none => false
  | some ids => nodeId ∉ ids

/-- What `getOrCreateEntry` returns. -/
def entry (nodeId : JsString) : ClusterPeerHealthEntry :=
  (st.entries.get nodeId).getD
    { nodeId, status := .unknown, incarnation := .ofNat 0, updatedAt := st.clock,
      source := .localSource }

/-- Write an entry under its node id. -/
def setEntry (e : ClusterPeerHealthEntry) : ClusterPeerHealthStore :=
  { st with entries := st.entries.set e.nodeId e }

/-- `emit`. The only listener that calls back into the store does so on `dead` snapshots, which
are emitted last by the operations that emit them. -/
def emit (e : ClusterPeerHealthEntry) : ClusterPeerHealthStore :=
  { st with emitted := st.emitted ++ [e.toClusterPeerHealthSnapshot] }

/-- `clearTimeout`, if there is a timer to clear. -/
def clearTimeout (timer : Option ℕ) : ClusterPeerHealthStore :=
  match timer with
  | none => st
  | some h => { st with timers := st.timers.delete h }

/-- `applyLocalStatus`. -/
def applyLocalStatus (e : ClusterPeerHealthEntry) (status : ReportedStatus)
    (detail : Option JsString) : ClusterPeerHealthStore :=
  let e' : ClusterPeerHealthEntry :=
    { e with
      deadTimer := none, status := status.toStatus, incarnation := e.incarnation.add (.ofNat 1),
      updatedAt := st.clock, detail, source := .localSource, reportedByNodeId := none,
      lastAliveAt := if status = .alive then some (.ofNat st.clock) else e.lastAliveAt }
  ((st.clearTimeout e.deadTimer).setEntry e').emit e'

/-- `ensureSuspectTimer`. -/
def ensureSuspectTimer (nodeId : JsString) (detail : Option JsString) : ClusterPeerHealthStore :=
  match st.entries.get nodeId with
  | none => st
  | some current =>
    if current.deadTimer.isSome then st
    else
      { st with
        timers := st.timers.set st.nextTimeout
          { nodeId, detail, expiresAt := st.clock + st.suspectTimeoutMs }
        nextTimeout := st.nextTimeout + 1
        entries := st.entries.set nodeId { current with deadTimer := some st.nextTimeout } }

/-- `statusRank`. -/
def statusRank : ClusterPeerHealthStatus → ℕ
  | .dead => 3
  | .suspect => 2
  | .alive => 1
  | .unknown => 0

/-- `shouldApplyRumor`. -/
def shouldApplyRumor (current : ClusterPeerHealthEntry) (rumor : ClusterPeerHealthRumor) : Bool :=
  if current.status = .unknown then true
  else if current.incarnation.lt rumor.incarnation then true
  else if rumor.incarnation.lt current.incarnation then false
  else if current.source = .localSource then false
  else statusRank current.status < statusRank rumor.status.toStatus

/-! ### Operations -/

/-- `getStatus`. -/
def getStatus (nodeId : JsString) : ClusterPeerHealthStatus :=
  ((st.entries.get nodeId).map fun e => e.status).getD .unknown

/-- `noteKnownPeers`. -/
def noteKnownPeers (nodeIds : List JsString) : ClusterPeerHealthStore :=
  { st with
    knownPeerNodeIds := some nodeIds
    entries := st.entries.filter fun n _ => n ∈ nodeIds
    timers := st.timers.filter fun h _ =>
      !st.entries.entries.any fun e => e.1 ∉ nodeIds && e.2.deadTimer = some h }

/-- `markAlive`. -/
def markAlive (nodeId : JsString) (detail : Option JsString) : ClusterPeerHealthStore :=
  if st.isUnknownPeer nodeId then st else
  let current := st.entry nodeId
  if current.status = .alive ∧ current.source = .localSource then
    st.setEntry { current with
      lastAliveAt := some (.ofNat st.clock), updatedAt := st.clock, detail
      reportedByNodeId := none }
  else st.applyLocalStatus current .alive detail

/-- `markSuspect`. -/
def markSuspect (nodeId : JsString) (detail : Option JsString) : ClusterPeerHealthStore :=
  if st.isUnknownPeer nodeId then st else
  let current := st.entry nodeId
  let st' :=
    if current.status = .suspect ∧ current.source = .localSource then
      st.setEntry { current with updatedAt := st.clock, detail, reportedByNodeId := none }
    else st.applyLocalStatus current .suspect detail
  st'.ensureSuspectTimer nodeId detail

/-- `markDead`. -/
def markDead (nodeId : JsString) (detail : Option JsString) : ClusterPeerHealthStore :=
  if st.isUnknownPeer nodeId then st else
  let current := st.entry nodeId
  if current.status = .dead ∧ current.source = .localSource ∧ current.detail = detail then
    st.setEntry { current with updatedAt := st.clock }
  else st.applyLocalStatus current .dead detail

/-- `applyRumor`. -/
def applyRumor (rumor : ClusterPeerHealthRumor) (reportedByNodeId : JsString) :
    ClusterPeerHealthStore :=
  if st.isUnknownPeer rumor.nodeId then st else
  let current := st.entry rumor.nodeId
  let gossip := some (js "gossip:" ++ reportedByNodeId)
  if !shouldApplyRumor current rumor then
    if current.status = rumor.status.toStatus ∧
        rumor.lastAliveAt.any fun x => (current.lastAliveAt.getD (.ofNat 0)).lt x then
      st.setEntry { current with
        lastAliveAt := rumor.lastAliveAt, updatedAt := st.clock, source := .remoteSource
        reportedByNodeId := some reportedByNodeId, detail := gossip }
    else st
  else
    let e' : ClusterPeerHealthEntry :=
      { current with
        deadTimer := none, status := rumor.status.toStatus, incarnation := rumor.incarnation
        updatedAt := st.clock
        lastAliveAt :=
          if rumor.status = .alive then
            some ((rumor.lastAliveAt.or current.lastAliveAt).getD (.ofNat st.clock))
          else current.lastAliveAt
        detail := gossip, source := .remoteSource, reportedByNodeId := some reportedByNodeId }
    let st' := (st.clearTimeout current.deadTimer).setEntry e'
    let st'' := if rumor.status = .suspect then st'.ensureSuspectTimer rumor.nodeId gossip else st'
    st''.emit e'

/-- `dispose`. -/
def dispose : ClusterPeerHealthStore :=
  { st with
    entries := .empty
    timers := st.timers.filter fun h _ => !st.entries.entries.any fun e => e.2.deadTimer = some h }

/-- The timer with this handle runs its callback, if it is pending and due. -/
def timerFires (h : ℕ) : ClusterPeerHealthStore :=
  match st.timers.get h with
  | none => st
  | some t =>
    if t.expiresAt ≤ st.clock then
      let st' := { st with timers := st.timers.delete h }
      match st'.entries.get t.nodeId with
      | none => st'
      | some latest =>
        if latest.status ≠ .suspect then st'
        else
          (st'.setEntry { latest with deadTimer := none }).markDead t.nodeId
            (some (t.detail.getD (js "suspect_timeout")))
    else st

/-! ### The machine -/

/-- The calls that the store receives, its timers and the clock. -/
inductive Event
  | noteKnownPeers (nodeIds : List JsString)
  | markAlive (nodeId : JsString) (detail : Option JsString)
  | markSuspect (nodeId : JsString) (detail : Option JsString)
  | markDead (nodeId : JsString) (detail : Option JsString)
  | applyRumor (rumor : ClusterPeerHealthRumor) (reportedByNodeId : JsString)
  | dispose
  | timerFires (handle : ℕ)
  | advance (ms : ℕ)

/-- One event. -/
def step (st : ClusterPeerHealthStore) : Event → ClusterPeerHealthStore
  | .noteKnownPeers nodeIds => st.noteKnownPeers nodeIds
  | .markAlive nodeId detail => st.markAlive nodeId detail
  | .markSuspect nodeId detail => st.markSuspect nodeId detail
  | .markDead nodeId detail => st.markDead nodeId detail
  | .applyRumor rumor reportedByNodeId => st.applyRumor rumor reportedByNodeId
  | .dispose => st.dispose
  | .timerFires handle => st.timerFires handle
  | .advance ms => { st with clock := st.clock + ms }

end ClusterPeerHealthStore

end Hardess
