import MilterManager.Base.Cursor
import MilterManager.Base.Runs

/-!
# The manager

The leaders of a `MilterManager` and the timer that checks their connections, from
`milter/manager/milter-manager.c`. What a leader does while its connection is checked is an input:
it answers whether the client is still connected, and leaders may finish and sessions may be
disposed meanwhile.
-/

namespace MilterManager.Manager

open MilterManager.Base

/-- A leader, numbered in the order in which the manager makes them. -/
abbrev LeaderId := Nat

/-- The timeouts of a `MilterEventLoop`. -/
structure EventLoop where
  timers : List Nat
  lastId : Nat
deriving DecidableEq, Repr

namespace EventLoop

/-- `milter_event_loop_add_timeout`, `milter/core/milter-libev-event-loop.c:592`. -/
def addTimeout (loop : EventLoop) : Nat × EventLoop :=
  (loop.lastId + 1, ⟨(loop.lastId + 1) :: loop.timers, loop.lastId + 1⟩)

/-- `milter_event_loop_remove`, `milter/core/milter-libev-event-loop.c:683`. -/
def remove (loop : EventLoop) (id : Nat) : EventLoop :=
  { loop with timers := loop.timers.filter (· ≠ id) }

end EventLoop

/-- The fields of `MilterManagerPrivate` for its leaders, the interval of its configuration and
its event loop. The last three fields are a record: which leaders have finished, which have been
unreferenced, and the interval configured when the last connection was established. -/
structure State where
  leaders : List LeaderId := []
  nextConnectionCheckedLeader : Option LeaderId := none
  connectionChecking : Bool := false
  periodicalConnectionCheckerId : Nat := 0
  currentPeriodicalConnectionCheckInterval : Nat := 0
  finishedLeaders : List LeaderId := []
  connectionCheckInterval : Nat
  nLeaders : Nat := 0
  finishedHandlers : List LeaderId := []
  loop : EventLoop := ⟨[], 0⟩
  finished : List LeaderId := []
  unreferenced : List LeaderId := []
  connectedInterval : Nat := 0
deriving DecidableEq, Repr

/-- What may be called back while the connection of a leader is checked. -/
inductive Call where
  | leaderFinished (leader : LeaderId)
  | sessionsFinished
deriving DecidableEq, Repr

/-- What `milter_manager_leader_check_connection` does for a leader. -/
structure Check where
  connected : Bool
  meanwhile : List Call := []
deriving DecidableEq, Repr

/-- What happens to a manager. -/
inductive Event where
  | connectionEstablished
  | leaderFinished (leader : LeaderId)
  | timeout (timer : Nat) (checks : LeaderId → Check)
  | setConnectionCheckInterval (interval : Nat)
  | sessionsFinished

/-- `n_leaders_per_connection_check`, `milter/manager/milter-manager.c:370`. -/
def nLeadersPerConnectionCheck : Nat := 30

namespace State

/-- `dispose_periodical_connection_checker`, `milter/manager/milter-manager.c:239`. -/
def disposePeriodicalConnectionChecker (s : State) : State :=
  let s := { s with currentPeriodicalConnectionCheckInterval := 0 }
  if s.periodicalConnectionCheckerId = 0 then s
  else
    { s with
      loop := s.loop.remove s.periodicalConnectionCheckerId
      periodicalConnectionCheckerId := 0 }

/-- `dispose_finished_leaders`, `milter/manager/milter-manager.c:256`. -/
def disposeFinishedLeaders (s : State) : State :=
  { s with unreferenced := s.finishedLeaders ++ s.unreferenced, finishedLeaders := [] }

/-- The node of a leader is removed from the list, `milter/manager/milter-manager.c:747`. -/
def unlistLeader (s : State) (leader : LeaderId) : State :=
  if leader ∈ s.leaders then
    { s with
      nextConnectionCheckedLeader :=
        if s.nextConnectionCheckedLeader = some leader then Cursor.next s.leaders leader
        else s.nextConnectionCheckedLeader
      leaders := s.leaders.erase leader }
  else s

/-- `cb_leader_finished`, `milter/manager/milter-manager.c:733`. -/
def cbLeaderFinished (s : State) (leader : LeaderId) : State :=
  let s := { s with finishedHandlers := s.finishedHandlers.filter (· ≠ leader) }
  let s :=
    if s.connectionChecking then s
    else
      let s := s.unlistLeader leader
      if s.leaders = [] then s.disposePeriodicalConnectionChecker else s
  { s with finishedLeaders := leader :: s.finishedLeaders }

/-- A leader emits `finished`. -/
def leaderFinished (s : State) (leader : LeaderId) : State :=
  if leader < s.nLeaders then
    let s := { s with finished := leader :: s.finished }
    if leader ∈ s.finishedHandlers then s.cbLeaderFinished leader else s
  else s

/-- What is called back. -/
def call (s : State) : Call → State
  | .leaderFinished leader => s.leaderFinished leader
  | .sessionsFinished => s.disposeFinishedLeaders

/-- The loop of `connection_check`, `milter/manager/milter-manager.c:364`, for at most as many
leaders as its first argument says. -/
def checkConnections (checks : LeaderId → Check) :
    Nat → Option LeaderId → State → Option LeaderId × State
  | 0, node, s => (node, s)
  | _ + 1, none, s => (none, s)
  | n + 1, some leader, s =>
      let nextNode := Cursor.next s.leaders leader
      let s := (checks leader).meanwhile.foldl call s
      let s :=
        if (checks leader).connected then s else { s with leaders := s.leaders.erase leader }
      checkConnections checks n nextNode s

/-- The leader that `connection_check` starts with. -/
def firstCheckedLeader (s : State) : Option LeaderId :=
  match s.nextConnectionCheckedLeader with
  | none => s.leaders.head?
  | some leader => some leader

/-- `connection_check`, `milter/manager/milter-manager.c:364`. -/
def connectionCheck (checks : LeaderId → Check) (s : State) : Bool × State :=
  let (node, s) :=
    checkConnections checks nLeadersPerConnectionCheck s.firstCheckedLeader
      { s with
        connectionChecking := true
        nextConnectionCheckedLeader := s.firstCheckedLeader }
  let s := { s with nextConnectionCheckedLeader := node, connectionChecking := false }
  (s.leaders ≠ [], s)

/-- The event loop calls the timer back, and removes it when it answers false. -/
def timeout (timer : Nat) (checks : LeaderId → Check) (s : State) : State :=
  if timer ∈ s.loop.timers then
    let (again, s) := s.connectionCheck checks
    if again then s else { s with loop := s.loop.remove timer }
  else s

/-- `start_periodical_connection_checker`, `milter/manager/milter-manager.c:397`. -/
def startPeriodicalConnectionChecker (s : State) : State :=
  let interval := s.connectionCheckInterval
  if 0 < interval then
    if s.periodicalConnectionCheckerId = 0 ∨
        interval ≠ s.currentPeriodicalConnectionCheckInterval then
      let s := s.disposePeriodicalConnectionChecker
      let (id, loop) := s.loop.addTimeout
      { s with
        currentPeriodicalConnectionCheckInterval := interval
        loop := loop
        periodicalConnectionCheckerId := id }
    else s
  else s.disposePeriodicalConnectionChecker

/-- `setup_context_signals`, `milter/manager/milter-manager.c:766`. -/
def setupContextSignals (s : State) : State :=
  { s with
    nLeaders := s.nLeaders + 1
    leaders := s.nLeaders :: s.leaders
    finishedHandlers := s.nLeaders :: s.finishedHandlers }

/-- `connection_established`, `milter/manager/milter-manager.c:815`. -/
def connectionEstablished (s : State) : State :=
  { s.setupContextSignals.startPeriodicalConnectionChecker with
    connectedInterval := s.connectionCheckInterval }

end State

/-- What the manager does. -/
def step (s : State) : Event → State
  | .connectionEstablished => s.connectionEstablished
  | .leaderFinished leader => s.leaderFinished leader
  | .timeout timer checks => s.timeout timer checks
  | .setConnectionCheckInterval interval => { s with connectionCheckInterval := interval }
  | .sessionsFinished => s.disposeFinishedLeaders

/-- `milter_manager_init`, `milter/manager/milter-manager.c:211`, with the interval of the
configuration. -/
def init (interval : Nat) : State := { connectionCheckInterval := interval }

end MilterManager.Manager
