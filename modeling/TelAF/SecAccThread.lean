import TelAF.SecAccInvariants
import TelAF.TransitionRuns

/-!
# The security-access thread and its event queue

The thread takes signals from a queue in the order of their reports. A signal of the
main thread comes with a semaphore on which the main thread waits, for three seconds
at most, so that the main thread reports nothing else meanwhile; `waitTimesOut` is
the end of such a wait, after which the semaphore is gone. The S3 timer and the delay
timer report without a semaphore.

Three fields observe a run and are never read by the code. `pending` is the answer
that the application owes for the request that was forwarded last. `lockout` is the
level that has reached its limit, with a mark once its delay has elapsed.
`forwards` records for every request that was forwarded the level that was locked out.
-/

namespace TelAF.SecAccThread

open DiagConfiguration UdsState UdsIndications SecurityAccess SecAccMoves SecAccInvariants
  TransitionRuns

def answerTo : SecAccSignal → Option SecAccSignal
  | .requestSeed => some .requestSeedResponse
  | .sendKey => some .sendKeyResponse
  | _ => none

def isAnswer (sig : SecAccSignal) : Bool := sig == .requestSeedResponse || sig == .sendKeyResponse

/-- Signals of a request or of an answer to one. -/
def isExchange (sig : SecAccSignal) : Bool := (answerTo sig).isSome || isAnswer sig

/-- Signals that the main thread reports and waits for. -/
def fromMain (sig : SecAccSignal) : Bool := isExchange sig || sig == .sessionControl

structure Entry where
  sig : SecAccSignal
  /-- The main thread waits for this signal. -/
  awaited : Bool

structure Lockout where
  level : SecurityLevel
  elapsed : Bool

/-- The active object of the security-access worker with its queue. -/
structure Worker where
  ao : ActiveObject
  tree : Tree
  queue : List Entry
  mainWaits : Bool
  pending : Option SecAccSignal
  lockout : Option Lockout
  forwards : List (Option SecurityLevel)

variable (T : SessionTable)

/-- A lockout begins when a level stands at its limit, and ends once its delay has
elapsed and its counter is reset. -/
def observeLockout (ao : ActiveObject) : Option Lockout → Option Lockout
  | some k => if k.elapsed ∧ ao.attCnt k.level = 0 then none else some k
  | none => (levelAtLimit T ao).map fun pair => ⟨pair.2, false⟩

/-- The thread of a process that was started with this tree. -/
def restart (w : Worker) (tree : Tree) : Worker :=
  { w with
    ao := stateInitial T tree
    tree := tree
    queue := []
    mainWaits := false
    pending := none
    lockout := observeLockout T (stateInitial T tree) w.lockout }

/-- The thread after the first start, with a tree of zeros. -/
def initialWorker : Worker where
  ao := stateInitial T fun _ => 0
  tree := fun _ => 0
  queue := []
  mainWaits := false
  pending := none
  lockout := none
  forwards := []

/-- A signal is queued. A report of a request or an answer ends the exchange before. -/
def report (w : Worker) (sig : SecAccSignal) (awaited : Bool) : Worker :=
  { w with
    queue := w.queue ++ [⟨sig, awaited⟩]
    mainWaits := w.mainWaits || awaited
    pending := if isExchange sig then none else w.pending }

def abandon (w : Worker) : Worker :=
  { w with
    queue := w.queue.map fun entry => { entry with awaited := false }
    mainWaits := false }

def expireDelay (w : Worker) (interval : Nat) : Worker :=
  { w with
    ao := { w.ao with delayTimer := none }
    queue := w.queue ++ [⟨.delayTimerExpired, false⟩]
    lockout := w.lockout.map fun k =>
      { k with elapsed := k.elapsed || interval == k.level.delayTimer * 1000 } }

/-- A forwarded request goes to the application only while the main thread waits. -/
def forwarded (entry : Entry) (reply : Reply) : Bool :=
  entry.awaited && reply == .responseNRC positiveResponse

/-- The thread after the dispatch of the first signal of its queue. -/
def finishSignal (w : Worker) (entry : Entry) (rest : List Entry) (ao : ActiveObject)
    (tree : Tree) (reply : Reply) : Worker where
  ao := ao
  tree := tree
  queue := rest
  mainWaits := w.mainWaits && !(entry.awaited && reply != .ignored)
  pending := if forwarded entry reply then answerTo entry.sig else w.pending
  lockout := observeLockout T ao w.lockout
  forwards :=
    if forwarded entry reply then w.lockout.map Lockout.level :: w.forwards else w.forwards

/-- Process the first signal with the manager as it is now. -/
def handleSignal (w : Worker) (m : UdsManager) : Option Worker :=
  match w.queue with
  | [] => none
  | entry :: rest =>
    match dispatch T w.ao w.tree m entry.sig with
    | .done ao tree reply => some (finishSignal T w entry rest ao tree reply)
    | .aborted tree _ => some (restart T w tree)

inductive Action where
  | reportMain (sig : SecAccSignal)
  | reportTimeout
  | delayElapses
  | waitTimesOut
  | handle (m : UdsManager)
  | restart

/-- One step of the thread in an environment that is only bound to wait for its signals. -/
def step (w : Worker) : Action → Option Worker
  | .reportMain sig =>
    if w.mainWaits = false ∧ fromMain sig then some (report w sig true) else none
  | .reportTimeout => some (report w .sessionTimeout false)
  | .delayElapses => w.ao.delayTimer.map (expireDelay w)
  | .waitTimesOut => some (abandon w)
  | .handle m => handleSignal T w m
  | .restart => some (SecAccThread.restart T w w.tree)

/-- The application answers only the request that it was given last, and only once. -/
def AnswersPending (w : Worker) : Action → Prop
  | .reportMain sig => isAnswer sig = true → w.pending = some sig
  | _ => True

instance : DecidableRel AnswersPending := fun _ a => by
  cases a <;> unfold AnswersPending <;> infer_instance

end TelAF.SecAccThread
