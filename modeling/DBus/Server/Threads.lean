import DBus.Server.Object
import Mathlib.Algebra.BigOperators.Group.Finset
/-
# Threads calling into one server, interleaved

Any number of threads call the server's functions.  A thread's stack holds the activations it is
in, innermost first: a function that calls out of the object (a list operation, a destructor,
`vtable->finalize`) keeps its frame while the application code it called runs, and that code may
call into the server again, so re-entry is a new frame on the same stack.  `vtable->disconnect`
is backend code that runs with the lock held and may call the lock-holding helpers
`_dbus_server_add_watch`, `_remove_watch`, `_toggle_watch` and their timeout twins; a
"lock-holding caller" frame is the same thing outside `dbus_server_disconnect`.

A step is one thread running from one interleaving point to the next (`TStep`), or one thread
handing a reference it holds to another (`Step.give`).  The application side is constrained only
by what the reference-counting contract asks of it: a thread calls into the server while it
holds a reference or runs inside one of the server's own temporary references; it releases only
references it holds; and the last reference it holds is released only once
`dbus_server_disconnect` has set `disconnected`.

The `Trace` records what the C code does outside the record: calls of `vtable->disconnect` and
`vtable->finalize`, every call out of the object with whether the caller held the lock, every
`HAVE_LOCK_CHECK`, the list operations on the registries and what the registry functions return,
the new-connection triples installed and freed, and the assertions of `_dbus_server_finalize_base`
that fail.
-/

namespace DBus

/-! ## 1. Frames and operations -/

/-- Where `dbus_server_disconnect` is: before `SERVER_LOCK`, inside `vtable->disconnect`, before
`SERVER_UNLOCK`, before the final `dbus_server_unref`. -/
inductive DisconnectPc
  | lock
  | vtable
  | unlock
  | unref
  deriving DecidableEq, Repr

/-- Where `protected_change_*` is: entered with the lock held; in the list operation with the
registry detached; back from it, before `SERVER_LOCK`, with the value to return. -/
inductive ChangePc
  | entry
  | callout (l : DBusWatchList)
  | relock (l : DBusWatchList) (retval : Bool)
  deriving DecidableEq, Repr

/-- Where `dbus_server_set_watch_functions`/`_timeout_functions` is: before `SERVER_LOCK`; in
`_dbus_watch_list_set_functions`; back from it, before `SERVER_LOCK`. -/
inductive SetFunctionsPc
  | lock
  | callout (l : DBusWatchList)
  | relock (l : DBusWatchList) (result : Bool)
  deriving DecidableEq, Repr

/-- One activation of a server function on a thread's stack: `dbus_server_disconnect`; a
lock-holding caller of a helper (`SERVER_LOCK`, with `locked = false` before it, the helper,
`SERVER_UNLOCK`); `protected_change_watch`/`_timeout`, reached through `_dbus_server_add_watch`
and the other helpers; `dbus_server_set_watch_functions`/`_timeout_functions`;
`dbus_server_set_new_connection_function`, `freeing` once in the old destructor;
`dbus_server_set_data`, with the outcome of the slot list's allocation;
`dbus_server_set_auth_mechanisms`, with the outcome of `_dbus_dup_string_array`; and
`vtable->finalize`, `rest` once `_dbus_data_slot_list_free` has run. -/
inductive Frame
  | disconnect (pc : DisconnectPc)
  | caller (k : ListKind) (c : Change) (locked : Bool)
  | change (k : ListKind) (c : Change) (pc : ChangePc)
  | setFunctions (k : ListKind) (fns : Nat) (pc : SetFunctionsPc)
  | setNewConnection (cb : NewConnection) (freeing : Bool)
  | setData (slot : Nat) (entry : DataSlot) (ok : Bool) (freeing : Bool)
  | setAuthMechanisms (mechanisms : Option (List String)) (ok : Bool)
  | finalize (rest : Bool)
  deriving DecidableEq, Repr

/-- A call application code can make. -/
inductive Op
  | ref
  | unref
  | disconnect
  | caller (k : ListKind) (c : Change)
  | setFunctions (k : ListKind) (fns : Nat)
  | setNewConnection (cb : NewConnection)
  | setData (slot : Nat) (entry : DataSlot) (ok : Bool)
  | setAuthMechanisms (mechanisms : Option (List String)) (ok : Bool)
  deriving DecidableEq, Repr

/-- The frame a call starts with; `dbus_server_ref` and `dbus_server_unref` are atomic and
push none. -/
def Op.frame : Op → Option Frame
  | .ref | .unref => none
  | .disconnect => some (.disconnect .lock)
  | .caller k c => some (.caller k c false)
  | .setFunctions k fns => some (.setFunctions k fns .lock)
  | .setNewConnection cb => some (.setNewConnection cb false)
  | .setData slot e ok => some (.setData slot e ok false)
  | .setAuthMechanisms m ok => some (.setAuthMechanisms m ok)

namespace Frame

/-- The frame is calling out of the object, so application code runs above it and may call in. -/
def callout : Frame → Bool
  | .change _ _ (.callout _) | .setFunctions _ _ (.callout _) => true
  | .setNewConnection _ true | .setData _ _ _ true => true
  | _ => false

/-- The frame holds a temporary reference: `dbus_server_disconnect` between its
`_dbus_server_ref_unlocked` and its `dbus_server_unref`, `protected_change_*` between its
`_dbus_server_ref_unlocked` and its `_dbus_server_unref_unlocked`. -/
def window : Frame → Bool
  | .disconnect .lock => false
  | .disconnect _ => true
  | .change _ _ .entry => false
  | .change _ _ _ => true
  | _ => false

/-- The frame has not started: nothing it does has happened yet. -/
def entry : Frame → Bool
  | .disconnect .lock | .caller _ _ false | .change _ _ .entry | .setFunctions _ _ .lock
  | .setNewConnection _ false | .setData _ _ _ false | .setAuthMechanisms _ _ => true
  | _ => false

/-- The frame is in code that runs with the lock held. -/
def locked : Frame → Bool
  | .disconnect .vtable | .disconnect .unlock | .caller _ _ true | .change _ _ .entry => true
  | _ => false

end Frame

/-- The temporary references a stack holds. -/
def windows (st : List Frame) : Nat := st.countP Frame.window

/-- Application code may run: the thread is outside the server, or calling out of it. -/
def canCall : List Frame → Bool
  | [] => true
  | f :: _ => f.callout

/-- A thread: its stack and the references it holds. -/
structure Thread where
  stack : List Frame
  held : Nat
  deriving DecidableEq, Repr

/-- The references that keep the server alive for the thread. -/
def Thread.weight (th : Thread) : Nat := th.held + windows th.stack

/-! ## 2. What a run records -/

/-- A call out of the server object: a list operation (`_dbus_watch_list_add_watch` and the
others, which call the application), `_dbus_watch_list_set_functions`, a displaced
new-connection destructor, a displaced slot-data destructor, `vtable->finalize`,
`_dbus_data_slot_list_free` (which calls every slot's destructor), and `_dbus_watch_list_free`
with `_dbus_timeout_list_free`. -/
inductive Callout
  | listOp (k : ListKind)
  | setFunctions (k : ListKind)
  | freeNewConnection
  | freeData
  | finalize
  | slotListFree
  | listFree
  deriving DecidableEq, Repr

/-- One call out of the object: by which thread, to what, and whether that thread held the
server lock. -/
structure CalloutRecord where
  tid : Nat
  what : Callout
  lockHeld : Bool
  deriving DecidableEq, Repr

/-- One call of `vtable->finalize`: by which thread, `disconnected` at that moment, and the
lock's holder. -/
structure FinalizeRecord where
  tid : Nat
  disconnected : Bool
  lock : Option Nat
  deriving DecidableEq, Repr

/-- The assertions at the start of `_dbus_server_finalize_base`, each by what it checks:
`!server->have_server_lock` (line 175, compiled unless `DBUS_DISABLE_CHECKS`; the flag is set
while some thread holds the lock) and `server->disconnected` (line 177). -/
inductive FinalizeAssert
  | notLocked
  | disconnected
  deriving DecidableEq, Repr

/-- What a call does to a registry: `protected_change_*` with its change, or
`dbus_server_set_*_functions` with the functions it installs. -/
inductive RegistryCall
  | change (c : Change)
  | setFunctions (fns : Nat)
  deriving DecidableEq, Repr

/-- A list operation that ran on the registry of kind `kind`, recorded when it returns: the
call's `_dbus_watch_list_add_watch` (remove, toggle) or `_dbus_watch_list_set_functions`, with
its outcome. -/
structure ListOpRecord where
  kind : ListKind
  call : RegistryCall
  ok : Bool
  deriving DecidableEq, Repr

/-- A call of `protected_change_*` or of `dbus_server_set_*_functions` returning: by which
thread, on which registry, whether it found the registry in its field, and the value it
returns. -/
structure ReturnRecord where
  tid : Nat
  kind : ListKind
  call : RegistryCall
  found : Bool
  value : Bool
  deriving DecidableEq, Repr

/-- What the caller of the server function is told: `_dbus_server_add_watch`/`_timeout` return
the value of `protected_change_*` (lines 268, 385); `_dbus_server_remove_*` and
`_dbus_server_toggle_*` are `void` and drop it (lines 279-287, 299-310, 396-403, 415-424);
`dbus_server_set_*_functions` return their `result`. -/
def ReturnRecord.reported (r : ReturnRecord) : Option Bool :=
  match r.call with
  | .change (.add _) | .setFunctions _ => some r.value
  | .change _ => none

/-- What a run has done beyond the record: the calls of `vtable->disconnect`; the calls of
`vtable->finalize`; every call out of the object; every `HAVE_LOCK_CHECK` reached, by thread,
with whether that thread held the lock; the list operations that ran on the registries, in
order; the returns of `protected_change_*` and `dbus_server_set_*_functions`; the triples
`dbus_server_set_new_connection_function` installed; the new-connection destructor calls, with
the function and the data they were given; the assertions of `_dbus_server_finalize_base` that
failed; and whether `_dbus_server_finalize_base` has run to its end. -/
structure Trace where
  disconnects : Nat
  finalizes : List FinalizeRecord
  callouts : List CalloutRecord
  lockChecks : List (Nat × Bool)
  listOps : List ListOpRecord
  returns : List ReturnRecord
  installed : List NewConnection
  released : List (Nat × Nat)
  failedAsserts : List FinalizeAssert
  finalized : Bool
  deriving DecidableEq, Repr

namespace Trace

/-- Nothing done yet. -/
def empty : Trace := ⟨0, [], [], [], [], [], [], [], [], false⟩

/-- Record a call out of the object by thread `t`. -/
@[simp] def callout (tr : Trace) (t : Nat) (what : Callout) (held : Bool) : Trace :=
  { tr with callouts := tr.callouts ++ [⟨t, what, held⟩] }

/-- Record a `HAVE_LOCK_CHECK`. -/
@[simp] def lockCheck (tr : Trace) (t : Nat) (held : Bool) : Trace :=
  { tr with lockChecks := tr.lockChecks ++ [(t, held)] }

/-- Evaluate an assertion of `_dbus_server_finalize_base`: record it when it fails. -/
@[simp] def check (tr : Trace) (site : FinalizeAssert) (cond : Bool) : Trace :=
  { tr with failedAsserts := tr.failedAsserts ++ if cond then [] else [site] }

/-- Record a list operation that returned. -/
@[simp] def listOp (tr : Trace) (r : ListOpRecord) : Trace :=
  { tr with listOps := tr.listOps ++ [r] }

/-- Record a registry call returning to its caller. -/
@[simp] def ret (tr : Trace) (r : ReturnRecord) : Trace :=
  { tr with returns := tr.returns ++ [r] }

/-- Record a call of `vtable->finalize` by thread `t` on the server `s`. -/
@[simp] def finalizeCall (tr : Trace) (t : Nat) (s : DBusServer) : Trace :=
  { tr.callout t .finalize (s.lock == some t) with
    finalizes := tr.finalizes ++ [⟨t, s.disconnected, s.lock⟩] }

/-- Record an installed triple, and the call of the displaced triple's destructor when it has
one. -/
@[simp] def swapNewConnection (tr : Trace) (t : Nat) (cb old : NewConnection) (held : Bool) :
    Trace :=
  { tr with
    installed := tr.installed ++ [cb]
    callouts := tr.callouts ++ (old.free.map fun _ => ⟨t, .freeNewConnection, held⟩).toList
    released := tr.released ++ (old.free.map (·, old.data)).toList }

end Trace

/-- The end of `dbus_server_unref` and `_dbus_server_unref_unlocked` after the decrement: on the
last reference `vtable->finalize` is called on `s`, and its frame is pushed. -/
def finalizeIf (t : Nat) (last : Bool) (s : DBusServer) (tr : Trace) (st : List Frame) :
    Trace × List Frame :=
  if last then (tr.finalizeCall t s, .finalize false :: st) else (tr, st)

/-! ## 3. One thread's step -/

section Step

-- `allowed`: the calls application code makes in the runs considered; `t`: the thread;
-- `heldTotal`: the references all threads hold, read by the environment's rule for the last one.
variable (allowed : Op → Prop) (t : Nat) (heldTotal : Nat)

/-- **One step of thread `t`**: the object, the trace and the thread before and after.  Each
constructor is one stretch of code between two interleaving points; a `SERVER_LOCK` it starts
with is the hypothesis `s.lock = none`.

Application code, outside the server or in a call-out, calls `dbus_server_ref` (`ref`),
`dbus_server_unref` on a reference it holds, the last held one only once the server is
disconnected (`unref`), or any other function (`call`).  `dbus_server_disconnect` takes the lock
and a reference, sets `disconnected` and calls `vtable->disconnect` (lines 737-747,
`disconnectFirst`), or finds the flag set and goes on to `SERVER_UNLOCK` (`disconnectAgain`);
`vtable->disconnect` calls a lock-holding helper (`vtableCall`) or returns (`vtableDone`); then
`SERVER_UNLOCK` (line 750) and `dbus_server_unref` (line 751).  A lock-holding caller takes the
lock and calls the helper (`callerLock`), and releases it once the helper has returned
(`callerUnlock`).  `protected_change_*` finds the registry attached and calls the list operation
(`changeAttached`), or finds it detached and returns `FALSE` (`changeDetached`); the list
operation returns with its outcome (`changeReturn`); `SERVER_LOCK`, reattach,
`_dbus_server_unref_unlocked` and `return retval` (lines 246-250, `changeRelock`).
`dbus_server_set_*_functions` takes the attached registry out and calls
`_dbus_watch_list_set_functions` (`setFunctionsAttached`), or finds it detached, warns and
returns `FALSE` (`setFunctionsDetached`); the call returns its outcome (`setFunctionsReturn`);
`SERVER_LOCK; server->watches = watches; SERVER_UNLOCK; return result` (`setFunctionsRelock`).
`dbus_server_set_new_connection_function` swaps under the lock and then calls the old destructor,
when there is one (`setNewConnectionFree`, `setNewConnectionNoFree`, `setNewConnectionReturn`);
`dbus_server_set_data` likewise, or fails to allocate (`setDataFree`, `setDataNoFree`,
`setDataFailed`, `setDataReturn`); `dbus_server_set_auth_mechanisms` is one block (`setAuth`).
`_dbus_server_finalize_base` checks its assertions and calls `_dbus_data_slot_list_free`
(`finalizeSlots`), then runs the rest, whose `dbus_server_set_new_connection_function` takes the
lock (`finalizeRest`). -/
inductive TStep : DBusServer → Trace → Thread → DBusServer → Trace → Thread → Prop
  | ref {s tr st h} (ha : allowed .ref) (hc : canCall st) (hp : 0 < h + windows st) :
      TStep s tr ⟨st, h⟩ (refInc s) tr ⟨st, h + 1⟩
  | unref {s tr st h} (ha : allowed .unref) (hc : canCall st) (hh : 0 < h)
      (hd : heldTotal = 1 → s.disconnected = true) :
      TStep s tr ⟨st, h⟩ (refDec s) (finalizeIf t (lastUnref s) (refDec s) tr st).1
        ⟨(finalizeIf t (lastUnref s) (refDec s) tr st).2, h - 1⟩
  | call {s tr st h f} (op : Op) (ha : allowed op) (hf : op.frame = some f) (hc : canCall st)
      (hp : 0 < h + windows st) :
      TStep s tr ⟨st, h⟩ s tr ⟨f :: st, h⟩
  | disconnectFirst {s tr st h} (hl : s.lock = none) (hd : s.disconnected = false) :
      TStep s tr ⟨.disconnect .lock :: st, h⟩ (disconnectLocked t s).1
        { tr.lockCheck t ((disconnectLocked t s).1.lock == some t) with
          disconnects := tr.disconnects + 1 }
        ⟨.disconnect .vtable :: st, h⟩
  | disconnectAgain {s tr st h} (hl : s.lock = none) (hd : s.disconnected = true) :
      TStep s tr ⟨.disconnect .lock :: st, h⟩ (disconnectLocked t s).1
        (tr.lockCheck t ((disconnectLocked t s).1.lock == some t))
        ⟨.disconnect .unlock :: st, h⟩
  | vtableCall {s tr st h} (k : ListKind) (c : Change) :
      TStep s tr ⟨.disconnect .vtable :: st, h⟩ s tr
        ⟨.change k c .entry :: .disconnect .vtable :: st, h⟩
  | vtableDone {s tr st h} :
      TStep s tr ⟨.disconnect .vtable :: st, h⟩ s tr ⟨.disconnect .unlock :: st, h⟩
  | disconnectUnlock {s tr st h} :
      TStep s tr ⟨.disconnect .unlock :: st, h⟩ { s with lock := none } tr
        ⟨.disconnect .unref :: st, h⟩
  | disconnectUnref {s tr st h} :
      TStep s tr ⟨.disconnect .unref :: st, h⟩ (refDec s)
        (finalizeIf t (lastUnref s) (refDec s) tr st).1
        ⟨(finalizeIf t (lastUnref s) (refDec s) tr st).2, h⟩
  | callerLock {s tr st h k c} (hl : s.lock = none) :
      TStep s tr ⟨.caller k c false :: st, h⟩ { s with lock := some t } tr
        ⟨.change k c .entry :: .caller k c true :: st, h⟩
  | callerUnlock {s tr st h k c} :
      TStep s tr ⟨.caller k c true :: st, h⟩ { s with lock := none } tr ⟨st, h⟩
  | changeAttached {s tr st h k c l} (hl : s.list k = some l) :
      TStep s tr ⟨.change k c .entry :: st, h⟩ (protectedChangeEntry k s).1
        ((tr.lockCheck t (s.lock == some t)).callout t (.listOp k)
          ((protectedChangeEntry k s).1.lock == some t))
        ⟨.change k c (.callout l) :: st, h⟩
  | changeDetached {s tr st h k c} (hl : s.list k = none) :
      TStep s tr ⟨.change k c .entry :: st, h⟩ (protectedChangeEntry k s).1
        ((tr.lockCheck t (s.lock == some t)).ret ⟨t, k, .change c, false, false⟩) ⟨st, h⟩
  | changeReturn {s tr st h k c l} (ok : Bool) :
      TStep s tr ⟨.change k c (.callout l) :: st, h⟩ s (tr.listOp ⟨k, .change c, ok⟩)
        ⟨.change k c (.relock (l.apply c ok) (c.retval ok)) :: st, h⟩
  | changeRelock {s tr st h k c l r} (hl : s.lock = none) :
      TStep s tr ⟨.change k c (.relock l r) :: st, h⟩ (protectedChangeRelock t k l s)
        (finalizeIf t (lastUnref s) (protectedChangeRelock t k l s)
          ((tr.lockCheck t true).ret ⟨t, k, .change c, true, r⟩) st).1
        ⟨(finalizeIf t (lastUnref s) (protectedChangeRelock t k l s)
          ((tr.lockCheck t true).ret ⟨t, k, .change c, true, r⟩) st).2, h⟩
  | setFunctionsAttached {s tr st h k fns l} (hl : s.lock = none) (hk : s.list k = some l) :
      TStep s tr ⟨.setFunctions k fns .lock :: st, h⟩ (setFunctionsLocked k s).1
        (tr.callout t (.setFunctions k) ((setFunctionsLocked k s).1.lock == some t))
        ⟨.setFunctions k fns (.callout l) :: st, h⟩
  | setFunctionsDetached {s tr st h k fns} (hl : s.lock = none) (hk : s.list k = none) :
      TStep s tr ⟨.setFunctions k fns .lock :: st, h⟩ (setFunctionsLocked k s).1
        (tr.ret ⟨t, k, .setFunctions fns, false, false⟩) ⟨st, h⟩
  | setFunctionsReturn {s tr st h k fns l} (ok : Bool) :
      TStep s tr ⟨.setFunctions k fns (.callout l) :: st, h⟩ s
        (tr.listOp ⟨k, .setFunctions fns, ok⟩)
        ⟨.setFunctions k fns (.relock (l.setFunctions fns ok) ok) :: st, h⟩
  | setFunctionsRelock {s tr st h k fns l r} (hl : s.lock = none) :
      TStep s tr ⟨.setFunctions k fns (.relock l r) :: st, h⟩ (setFunctionsRelock k l s)
        (tr.ret ⟨t, k, .setFunctions fns, true, r⟩) ⟨st, h⟩
  | setNewConnectionFree {s tr st h cb f} (hl : s.lock = none) (hf : s.newConnection.free = some f) :
      TStep s tr ⟨.setNewConnection cb false :: st, h⟩ (swapNewConnection cb s).1
        (tr.swapNewConnection t cb (swapNewConnection cb s).2
          ((swapNewConnection cb s).1.lock == some t))
        ⟨.setNewConnection cb true :: st, h⟩
  | setNewConnectionNoFree {s tr st h cb} (hl : s.lock = none) (hf : s.newConnection.free = none) :
      TStep s tr ⟨.setNewConnection cb false :: st, h⟩ (swapNewConnection cb s).1
        (tr.swapNewConnection t cb (swapNewConnection cb s).2
          ((swapNewConnection cb s).1.lock == some t))
        ⟨st, h⟩
  | setNewConnectionReturn {s tr st h cb} :
      TStep s tr ⟨.setNewConnection cb true :: st, h⟩ s tr ⟨st, h⟩
  | setDataFree {s tr st h slot e ok old f} (hl : s.lock = none)
      (hs : (setDataLocked slot e ok s).2 = some old) (hf : old.free = some f) :
      TStep s tr ⟨.setData slot e ok false :: st, h⟩ (setDataLocked slot e ok s).1
        (tr.callout t .freeData ((setDataLocked slot e ok s).1.lock == some t))
        ⟨.setData slot e ok true :: st, h⟩
  | setDataNoFree {s tr st h slot e ok old} (hl : s.lock = none)
      (hs : (setDataLocked slot e ok s).2 = some old) (hf : old.free = none) :
      TStep s tr ⟨.setData slot e ok false :: st, h⟩ (setDataLocked slot e ok s).1 tr ⟨st, h⟩
  | setDataFailed {s tr st h slot e ok} (hl : s.lock = none)
      (hs : (setDataLocked slot e ok s).2 = none) :
      TStep s tr ⟨.setData slot e ok false :: st, h⟩ (setDataLocked slot e ok s).1 tr ⟨st, h⟩
  | setDataReturn {s tr st h slot e ok} :
      TStep s tr ⟨.setData slot e ok true :: st, h⟩ s tr ⟨st, h⟩
  | setAuth {s tr st h m ok} (hl : s.lock = none) :
      TStep s tr ⟨.setAuthMechanisms m ok :: st, h⟩ (dbusServerSetAuthMechanisms t m ok s).1 tr
        ⟨st, h⟩
  | finalizeSlots {s tr st h} :
      TStep s tr ⟨.finalize false :: st, h⟩ (slotListFree s).1
        (((tr.check .notLocked s.lock.isNone).check .disconnected s.disconnected).callout t
          .slotListFree (s.lock == some t))
        ⟨.finalize true :: st, h⟩
  | finalizeRest {s tr st h} (hl : s.lock = none) :
      TStep s tr ⟨.finalize true :: st, h⟩ (finalizeBaseRest s).1
        { (tr.swapNewConnection t NewConnection.null (finalizeBaseRest s).2
            ((finalizeBaseRest s).1.lock == some t)).callout t .listFree
            ((finalizeBaseRest s).1.lock == some t) with finalized := true }
        ⟨st, h⟩

end Step

/-! ## 4. The interleaved system -/

/-- `n` threads and the server they share. -/
structure Sys (n : Nat) where
  srv : DBusServer
  tr : Trace
  threads : Fin n → Thread

namespace Sys

variable {n : Nat}

/-- The references the threads hold. -/
def heldTotal (σ : Sys n) : Nat := ∑ i, (σ.threads i).held

/-- The references the threads hold, plus the temporary ones their frames hold. -/
def weight (σ : Sys n) : Nat := ∑ i, (σ.threads i).weight

/-- A server as `dbus_server_listen` returns it, shared by threads that hold all its
references and are not in it. -/
structure Init (σ : Sys n) : Prop where
  idle : ∀ i, (σ.threads i).stack = []
  refcount : σ.srv.refcount = σ.heldTotal
  held : 0 < σ.heldTotal
  connected : σ.srv.disconnected = false
  unlocked : σ.srv.lock = none
  watches : σ.srv.watches.isSome
  timeouts : σ.srv.timeouts.isSome
  newConnection : σ.srv.newConnection.free = none
  trace : σ.tr = Trace.empty

end Sys

/-- **One step of the system**: a thread runs, or a thread hands a reference it holds to
another. -/
inductive Step (allowed : Op → Prop) {n : Nat} : Sys n → Sys n → Prop
  | thread {σ : Sys n} {srv' tr' th'} (i : Fin n)
      (h : TStep allowed i.val σ.heldTotal σ.srv σ.tr (σ.threads i) srv' tr' th') :
      Step allowed σ ⟨srv', tr', Function.update σ.threads i th'⟩
  | give {σ : Sys n} (i j : Fin n) (hij : i ≠ j) (hc : canCall (σ.threads i).stack)
      (hh : 0 < (σ.threads i).held) :
      Step allowed σ ⟨σ.srv, σ.tr, Function.update (Function.update σ.threads i
        { σ.threads i with held := (σ.threads i).held - 1 }) j
        { σ.threads j with held := (σ.threads j).held + 1 }⟩

/-- The states a run from the initial state `σ₀` reaches, with calls drawn from `allowed`. -/
inductive Reach (allowed : Op → Prop) {n : Nat} (σ₀ : Sys n) : Sys n → Prop
  | init (h : σ₀.Init) : Reach allowed σ₀ σ₀
  | step {σ σ' : Sys n} (h : Reach allowed σ₀ σ) (hs : Step allowed σ σ') : Reach allowed σ₀ σ'

end DBus
