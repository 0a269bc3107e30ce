import P2pSdk.Locks.World

namespace P2pSdk
namespace Locks

open Foundation

/-!
# The locking discipline

Every function follows one discipline.  The mutex of the client is taken last
and never held while waiting.  The global mutex is only taken by a thread that
holds nothing and has joined the client threads whose handles it took.  While it
is held, client threads may be joined, but no others.

The discipline says what a thread holds wherever it is in its program.  The
tick and the receive thread of the client need, apart from the calls made by
callbacks, nothing but the mutex of the client.
-/

/-- What a thread holds: the mutexes, and handles of client threads that it has
taken and not yet joined. -/
structure Held where
  globalInner : Bool
  clientInner : Bool
  pending : Bool
  deriving DecidableEq, Repr

namespace Held

def nothing : Held := ⟨false, false, false⟩

/-- Whether a mutex is held. -/
def of (held : Held) : Mutex -> Bool
  | .globalInner => held.globalInner
  | .clientInner => held.clientInner

def set (held : Held) (mutex : Mutex) (value : Bool) : Held :=
  match mutex with
  | .globalInner => { held with globalInner := value }
  | .clientInner => { held with clientInner := value }

/-- Where an act may stand in a program. -/
def allows (held : Held) : Act -> Bool
  | .lock .globalInner => !held.globalInner && !held.clientInner && !held.pending
  | .lock .clientInner => !held.clientInner
  | .unlock .globalInner => held.globalInner && !held.clientInner
  | .unlock .clientInner => held.clientInner
  | .join .client => !held.clientInner
  | .join _ => !held.clientInner && !held.globalInner
  | .take .client | .renew .client | .store .client => held.clientInner
  | .take _ | .renew _ | .store _ => held.globalInner && !held.clientInner
  | .spawn _ => !held.clientInner
  | .callback => !held.clientInner && !held.pending

/-- What is held after an act. -/
def after (held : Held) : Act -> Held
  | .lock mutex => held.set mutex true
  | .unlock mutex => held.set mutex false
  | .take .client => { held with pending := true }
  | .join .client => { held with pending := false }
  | _ => held

end Held

/-- The discipline of all functions. -/
def discipline (held : Held) (act : Act) : Option Held :=
  if held.allows act then some (held.after act) else none

/-- The discipline of the client's own threads: no mutex but that of the
client, and nothing to wait for. -/
def sparing (_ : Unit) : Act -> Option Unit
  | .lock .clientInner | .unlock .clientInner | .callback => some ()
  | _ => none

/-- Every thread follows the discipline and holds nothing at the end. -/
theorem Kind.function_disciplined (kind : Kind) :
    kind.function.check discipline .nothing = some .nothing := by
  cases kind <;> decide

/-- So does every function that a callback may call. -/
theorem Call.function_disciplined (call : Call) :
    call.function.check discipline .nothing = some .nothing := by
  cases call <;> decide

theorem Kind.function_sparing {kind : Kind} (ofClient : kind.handles = some .client) :
    kind.function.check sparing () = some () := by
  cases kind with
  | clientTick | clientRecv => decide
  | _ => cases ofClient

end Locks
end P2pSdk
