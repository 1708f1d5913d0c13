import HermesRealtime.Runs
import Mathlib.Logic.Function.Basic

/-!
The path of the activation socket, which one instance of the service after another, or several at
once, bind, check and remove. Every look at the path and every change of it is a step of its own.
-/

namespace HermesRealtime.SocketPath

/-- What stands at the path: an inode, and whether it is a socket. -/
structure Node where
  inode : ℕ
  isSocket : Bool
  deriving DecidableEq

/-- Where an instance is in `start` and `stop`. -/
inductive Phase
  | idle
  | seen (n : Node)
  | probed (n : Node)
  | confirmed
  | free
  | cleared
  | bound (inode : ℕ)
  | listening (inode : ℕ)
  | unnamed (inode : ℕ)
  | serving (inode : ℕ)
  | failed
  | closed
  | leaving
  | stopped
  deriving DecidableEq

/-- The socket that an instance has bound and not closed. -/
def Phase.inode : Phase → Option ℕ
  | .bound inode | .listening inode | .unnamed inode | .serving inode => some inode
  | _ => none

inductive Act
  /-- `lstat` in `_prepare_socket_path`. -/
  | look
  /-- `_probe_socket`. -/
  | probe (answer : Bool)
  /-- The second `lstat`. -/
  | lookAgain
  | unlink
  /-- A call of `start` is refused: `mkdir`, `chmod`, `lstat`, `unlink` or `bind`. -/
  | refuse
  /-- `start_unix_server` removes a socket that is at its path, if it may. -/
  | clear (removed : Bool)
  /-- The new socket gets some inode number, which may have been that of an earlier one. -/
  | bind (inode : ℕ)
  | listen
  /-- `_path_identity` is taken from the path. -/
  | identify
  /-- The server is closed, if there is one. -/
  | close
  /-- `lstat` in `_cleanup_socket_file`, and what follows from it. -/
  | check
  /-- The failure of this `unlink` is suppressed. -/
  | remove (removed : Bool)
  | crash
  deriving DecidableEq

variable {ι : Type} [DecidableEq ι]

structure World (ι : Type) where
  path : Option Node
  /-- The sockets on which someone listens. -/
  accepting : ℕ → Bool
  phase : ι → Phase
  identity : ι → Option ℕ

def World.init (left : Option Node) : World ι :=
  ⟨left, fun _ => false, fun _ => .idle, fun _ => none⟩

namespace World

/-- Who connects to the path is accepted. -/
def live (w : World ι) : Bool :=
  match w.path with
  | some n => n.isSocket && w.accepting n.inode
  | none => false

def goTo (w : World ι) (i : ι) (phase : Phase) : World ι :=
  { w with phase := Function.update w.phase i phase }

/-- Nobody listens any more on the socket of the instance. -/
def hangUp (w : World ι) (i : ι) : World ι :=
  match (w.phase i).inode with
  | some inode => { w with accepting := Function.update w.accepting inode false }
  | none => w

def step (w : World ι) : ι × Act → Option (World ι)
  | (i, .look) =>
    match w.phase i, w.path with
    | .idle, none => some (w.goTo i .free)
    | .idle, some n => some (w.goTo i (if n.isSocket then .seen n else .failed))
    | _, _ => none
  | (i, .probe answer) =>
    match w.phase i with
    | .seen n =>
      if answer then if w.live then some (w.goTo i .failed) else none
      else some (w.goTo i (.probed n))
    | _ => none
  | (i, .lookAgain) =>
    match w.phase i with
    | .probed n => some (w.goTo i (if w.path = some n then .confirmed else .failed))
    | _ => none
  | (i, .unlink) =>
    match w.phase i, w.path with
    | .confirmed, some _ => some ({ w with path := none }.goTo i .free)
    | .confirmed, none => some (w.goTo i .failed)
    | _, _ => none
  | (i, .refuse) =>
    match w.phase i with
    | .idle | .seen _ | .probed _ | .confirmed | .free | .cleared => some (w.goTo i .failed)
    | _ => none
  | (i, .clear removed) =>
    match w.phase i, w.path with
    | .free, some ⟨_, true⟩ =>
      some ({ w with path := if removed then none else w.path }.goTo i .cleared)
    | .free, _ => some (w.goTo i .cleared)
    | _, _ => none
  | (i, .bind inode) =>
    match w.phase i, w.path with
    | .cleared, none => some ({ w with path := some ⟨inode, true⟩ }.goTo i (.bound inode))
    | .cleared, some _ => some (w.goTo i .failed)
    | _, _ => none
  | (i, .listen) =>
    match w.phase i with
    | .bound inode =>
      some ({ w with accepting := Function.update w.accepting inode true }.goTo i
        (.listening inode))
    | _ => none
  | (i, .identify) =>
    match w.phase i, w.path with
    | .listening inode, some n =>
      some ({ w with identity := Function.update w.identity i (some n.inode) }.goTo i
        (.serving inode))
    | .listening inode, none => some (w.goTo i (.unnamed inode))
    | _, _ => none
  | (i, .close) =>
    match w.phase i with
    | .idle | .failed | .unnamed _ | .serving _ => some ((w.hangUp i).goTo i .closed)
    | _ => none
  | (i, .check) =>
    match w.phase i, w.path with
    | .closed, some n =>
      some (w.goTo i (if n.isSocket ∧ w.identity i = some n.inode then .leaving else .stopped))
    | .closed, none => some (w.goTo i .stopped)
    | _, _ => none
  | (i, .remove removed) =>
    match w.phase i with
    | .leaving => some ({ w with path := if removed then none else w.path }.goTo i .stopped)
    | _ => none
  | (i, .crash) => some ((w.hangUp i).goTo i .stopped)

end World

end HermesRealtime.SocketPath
