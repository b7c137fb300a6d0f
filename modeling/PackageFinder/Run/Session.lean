import PackageFinder.Http.Call
import PackageFinder.Run.Log

/-!
# Sessions

A session is a computation that may make calls and write log entries.  All it does is told by its
trace, the calls and entries in their order; how its calls are answered is left open.
-/

namespace PackageFinder
open PackageFinder.Http

/-- What a session does. -/
inductive Event where
  /-- It makes a call. -/
  | call (c : Call)
  /-- It writes an entry. -/
  | log (e : Log.Entry)
  deriving DecidableEq, Repr

namespace Event

/-- The call that is made. -/
def call? : Event → Option Call
  | call c => some c
  | log _ => none

/-- The entry that is written. -/
def logged? : Event → Option Log.Entry
  | call _ => none
  | log e => some e

end Event

/-- A computation that may make calls and write entries: with calls answered by a network it gives
a result and a trace. -/
def Session (α : Type) : Type := Network → α × List Event

namespace Session
variable {α β : Type}

/-- The result of a session. -/
def result (m : Session α) (net : Network) : α := (m net).1

/-- The trace of a session. -/
def trace (m : Session α) (net : Network) : List Event := (m net).2

/-- The calls of a session, in their order. -/
def calls (m : Session α) (net : Network) : List Call := (m.trace net).filterMap (·.call?)

/-- The entries of a session, in their order. -/
def entries (m : Session α) (net : Network) : List Log.Entry :=
  (m.trace net).filterMap (·.logged?)

/-- Does nothing. -/
protected def pure (a : α) : Session α := fun _ => (a, [])

/-- One session after the other. -/
protected def bind (m : Session α) (f : α → Session β) : Session β := fun net =>
  ((f (m net).1 net).1, (m net).2 ++ (f (m net).1 net).2)

instance : Monad Session where
  pure := Session.pure
  bind := Session.bind

/-- Makes a call. -/
def ask (c : Call) : Session Answer := fun net => (net c, [.call c])

/-- Writes an entry. -/
def log (e : Log.Entry) : Session Unit := fun _ => ((), [.log e])

/-- Doing nothing has the result that is given. -/
@[simp] theorem result_pure (a : α) (net : Network) : (pure a : Session α).result net = a := rfl

/-- Doing nothing leaves no trace. -/
@[simp] theorem trace_pure (a : α) (net : Network) : (pure a : Session α).trace net = [] := rfl

/-- The second session starts with the result of the first. -/
@[simp] theorem result_bind (m : Session α) (f : α → Session β) (net : Network) :
    (m >>= f).result net = (f (m.result net)).result net := rfl

/-- The second trace follows the first. -/
@[simp] theorem trace_bind (m : Session α) (f : α → Session β) (net : Network) :
    (m >>= f).trace net = m.trace net ++ (f (m.result net)).trace net := rfl

/-- A call is answered by the network. -/
@[simp] theorem result_ask (c : Call) (net : Network) : (ask c).result net = net c := rfl

/-- A call is traced. -/
@[simp] theorem trace_ask (c : Call) (net : Network) : (ask c).trace net = [.call c] := rfl

/-- An entry is traced. -/
@[simp] theorem trace_log (e : Log.Entry) (net : Network) : (log e).trace net = [.log e] := rfl

end Session

end PackageFinder
