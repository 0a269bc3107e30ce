import P2pSdk.Foundation.Programs

namespace P2pSdk
namespace Locks

open Foundation

/-!
# What the functions lock and join

Each function of the client and of the layer above it is written here as the
program of its synchronization: the mutexes it locks and releases, the join
handles it takes, joins and stores, the stop flags it sets and replaces, the
threads it spawns, and where it calls a registered callback.  What it computes
in between is left out.  A branch that depends on such data has the test
`data`, and may go either way.

The queue of pending ids has a mutex of its own.  It is locked inside single
expressions that hold the mutex around it, so nobody ever waits for it.
-/

/-- The two mutexes. -/
inductive Mutex
  | globalInner
  | clientInner
  deriving DecidableEq, Repr

/-- The fields that hold join handles: `tick_handle` and `recv_handle` of
`ClientInner`, `tick` and `recv` of `ThreadHandles`, `connector` of
`ThreadHandles`. -/
inductive Handles
  | client
  | ice
  | connector
  deriving DecidableEq, Repr

/-- Threads by the closure they run.  `app` are the threads of the application. -/
inductive Kind
  | app
  | connect
  | initiateIce
  | clientTick
  | clientRecv
  | iceTick
  | iceRecv
  | connectorLoop
  deriving DecidableEq, Repr

/-- Where the join handle of a thread of this kind is kept. -/
def Kind.handles : Kind -> Option Handles
  | .clientTick | .clientRecv => some .client
  | .iceTick | .iceRecv => some .ice
  | .connectorLoop => some .connector
  | .app | .connect | .initiateIce => none

/-- The conditions of branches and loops: the stop flag of the thread is unset,
also its connection stands, or something that is left out. -/
inductive Test
  | running
  | connected
  | data
  deriving DecidableEq, Repr

/-- What a thread does to the mutexes, the handles and the flags. -/
inductive Act
  | lock (mutex : Mutex)
  | unlock (mutex : Mutex)
  /-- Set the stop flag and take the handles. -/
  | take (handles : Handles)
  /-- Join the handles taken, one after the other. -/
  | join (handles : Handles)
  /-- Put a new stop flag in place of the old one. -/
  | renew (handles : Handles)
  | spawn (kind : Kind)
  /-- Store the handles of the threads spawned. -/
  | store (handles : Handles)
  /-- Call the registered state or data callback. -/
  | callback
  deriving DecidableEq, Repr

/-- The synchronization of a function. -/
abbrev Function := Program Test Act

open Program (skip act ifElse whilst block oneOf)

/-- Do this while holding a mutex. -/
def locked (mutex : Mutex) (inside : Function) : Function :=
  block [act (.lock mutex), inside, act (.unlock mutex)]

/-- Hold a mutex over a statement that does no further synchronization. -/
def briefly (mutex : Mutex) : Function := block [act (.lock mutex), act (.unlock mutex)]

/-! ## The client -/

namespace P2pClient

def init : Function := briefly .clientInner

def onStateChange : Function := briefly .clientInner

def onData : Function := briefly .clientInner

def onLog : Function := briefly .clientInner

def iceState : Function := briefly .clientInner

def sendData : Function := briefly .clientInner

/-- The log callback is called between the two locks.  It is set by this layer
and does no synchronization. -/
def sdkLog : Function := block [briefly .clientInner, ifElse .data (briefly .clientInner) skip]

def sendText : Function := block [briefly .clientInner, sdkLog, sendData]

/-- The callback is taken out under the lock, called without it and put back. -/
def fireStateChange : Function :=
  block [briefly .clientInner,
    ifElse .data (block [act .callback, briefly .clientInner]) skip]

def fireOnData : Function :=
  block [briefly .clientInner,
    ifElse .data (block [act .callback, briefly .clientInner]) skip]

def stopIceThreads : Function :=
  block [locked .clientInner (act (.take .client)), act (.join .client)]

def startIceThreads : Function :=
  block [stopIceThreads,
    locked .clientInner (act (.renew .client)),
    act (.spawn .clientTick), act (.spawn .clientRecv),
    locked .clientInner (act (.store .client))]

/-- The tick thread. -/
def tickThread : Function :=
  whilst .running (block [
    act (.lock .clientInner),
    -- a changed state is reported with the lock dropped
    ifElse .data (block [act (.unlock .clientInner), fireStateChange, briefly .clientInner])
      (act (.unlock .clientInner)),
    briefly .clientInner,
    briefly .clientInner,
    ifElse .data (briefly .clientInner) skip,
    ifElse .data (block [briefly .clientInner, ifElse .data fireStateChange skip]) skip])

/-- What the receive thread does with application data. -/
def deliver : Function :=
  block [briefly .clientInner, briefly .clientInner,
    -- a heartbeat, a data frame, anything else
    oneOf .data [briefly .clientInner,
      block [sdkLog, ifElse .data (briefly .clientInner) skip, fireOnData],
      sdkLog]]

/-- The receive thread. -/
def recvThread : Function :=
  whilst .running (block [
    briefly .clientInner,
    ifElse .data (block [briefly .clientInner, ifElse .data deliver skip]) skip])

/-- The background thread of `connect`.  An error at any of its steps ends with
the report of `Failed`. -/
def connectBackground : Function :=
  block [
    ifElse .data (briefly .clientInner) skip,
    briefly .clientInner,
    ifElse .data (block [briefly .clientInner, briefly .clientInner]) skip,
    ifElse .data (briefly .clientInner) skip,
    ifElse .data fireStateChange (block [
      briefly .clientInner,
      ifElse .data fireStateChange (block [briefly .clientInner, startIceThreads])])]

def connect : Function :=
  ifElse .data skip (block [
    briefly .clientInner,
    ifElse .data skip (block [briefly .clientInner, act (.spawn .connect)])])

def close : Function := block [stopIceThreads, briefly .clientInner]

end P2pClient

/-! ## The layer above the client -/

namespace ClientNapi

def stopIceThreads : Function :=
  block [locked .globalInner (act (.take .ice)), act (.join .ice)]

def stopConnector : Function :=
  block [locked .globalInner (act (.take .connector)), act (.join .connector)]

def init : Function := ifElse .data skip (locked .globalInner P2pClient.init)

def connectConnector : Function :=
  block [stopConnector,
    locked .globalInner (act (.renew .connector)),
    act (.spawn .connectorLoop),
    locked .globalInner (act (.store .connector))]

def disconnectConnector : Function := stopConnector

def isConnectorRegistered : Function := briefly .globalInner

def initiateIce : Function :=
  block [briefly .globalInner, ifElse .data skip (act (.spawn .initiateIce))]

def stopIce : Function := block [stopIceThreads, briefly .globalInner]

/-- The lock is held while the client sends.  On the connector path it is
dropped before the datagram is sent. -/
def sendData : Function :=
  locked .globalInner (block [P2pClient.iceState, ifElse .data P2pClient.sendData skip])

def sendText : Function :=
  locked .globalInner (block [P2pClient.iceState, ifElse .data P2pClient.sendText skip])

def registerIds : Function := briefly .globalInner

def queryIds : Function := briefly .globalInner

def connect : Function :=
  ifElse .data skip (locked .globalInner (block [
    P2pClient.onStateChange, P2pClient.onData, P2pClient.onLog, P2pClient.connect]))

/-- The client is closed, and its threads joined, under the lock. -/
def close : Function :=
  block [locked .globalInner P2pClient.close, stopIceThreads, stopConnector,
    briefly .globalInner]

def sendViaConnector : Function := briefly .globalInner

def startIceThreadsInner : Function :=
  block [stopIceThreads,
    locked .globalInner (act (.renew .ice)),
    act (.spawn .iceTick), act (.spawn .iceRecv),
    locked .globalInner (act (.store .ice))]

/-- The tick thread of the connector path calls the state callback under the
lock. -/
def tickThread : Function :=
  whilst .running (block [
    locked .globalInner (ifElse .data (act .callback) skip),
    briefly .globalInner,
    briefly .globalInner,
    ifElse .data (briefly .globalInner) skip])

/-- The receive thread of the connector path. -/
def recvThread : Function :=
  whilst .running (block [
    briefly .globalInner,
    ifElse .data (block [
      briefly .globalInner,
      ifElse .data (block [
        briefly .globalInner,
        ifElse .data (briefly .globalInner)
          (block [ifElse .data (briefly .globalInner) skip, act .callback])]) skip]) skip])

def handleIceOfferInner : Function :=
  block [stopIceThreads, briefly .globalInner,
    ifElse .data skip (block [
      briefly .globalInner,
      ifElse .data skip (block [
        sendViaConnector, briefly .globalInner, startIceThreadsInner])])]

def handleIceAnswerInner : Function := ifElse .data skip (briefly .globalInner)

def handleConnectorMsgInner : Function :=
  oneOf .data [handleIceOfferInner, handleIceAnswerInner,
    ifElse .data skip (briefly .globalInner), skip]

/-- The connector thread.  The inner loop ends at a set flag or at a lost
connection, which is reported where the registration was. -/
def connectorLoopInner : Function :=
  whilst .running (ifElse .data skip (block [
    briefly .globalInner,
    whilst .connected (block [
      ifElse .data (block [briefly .globalInner, act .callback]) skip,
      whilst .data handleConnectorMsgInner]),
    ifElse .running (ifElse .data (block [briefly .globalInner, act .callback]) skip) skip]))

def initiateIceBgInner : Function :=
  block [stopIceThreads, briefly .globalInner,
    ifElse .data skip (block [
      briefly .globalInner,
      ifElse .data (block [
        briefly .globalInner,
        ifElse .data (briefly .globalInner) (ifElse .data (briefly .globalInner) skip)]) skip,
      briefly .globalInner, briefly .globalInner,
      sendViaConnector, startIceThreadsInner])]

end ClientNapi

/-! ## Threads and callbacks -/

/-- What an application thread calls, again and again. -/
def application : Function :=
  whilst .data (oneOf .data [
    ClientNapi.init, ClientNapi.connectConnector, ClientNapi.disconnectConnector,
    ClientNapi.isConnectorRegistered, ClientNapi.initiateIce, ClientNapi.stopIce,
    ClientNapi.sendData, ClientNapi.sendText, ClientNapi.registerIds, ClientNapi.queryIds,
    ClientNapi.connect, ClientNapi.close])

/-- The closure a thread runs. -/
def Kind.function : Kind -> Function
  | .app => application
  | .connect => P2pClient.connectBackground
  | .initiateIce => ClientNapi.initiateIceBgInner
  | .clientTick => P2pClient.tickThread
  | .clientRecv => P2pClient.recvThread
  | .iceTick => ClientNapi.tickThread
  | .iceRecv => ClientNapi.recvThread
  | .connectorLoop => ClientNapi.connectorLoopInner

/-- The functions that a callback may call. -/
inductive Call
  | sendText
  | sendData
  | stopIce
  | close
  deriving DecidableEq, Repr

def Call.function : Call -> Function
  | .sendText => ClientNapi.sendText
  | .sendData => ClientNapi.sendData
  | .stopIce => ClientNapi.stopIce
  | .close => ClientNapi.close

end Locks
end P2pSdk
