import Mathlib.Data.List.Basic
/-
# The `DBusServer` object and the code between its lock points

`DBusServer` (`dbus-server-protected.h`) is one record behind one mutex.  This module gives the
record and, for each function of `dbus-server.c` that touches it, the code that runs between
two points where another thread can interleave (a lock acquire or release, a call out of the
object, an atomic reference-count operation), as a plain function of the record.

The modelled build is the one with `DBUS_HAVE_ATOMIC_INT`: `dbus_server_ref` and
`dbus_server_unref` change the count atomically and take no lock.  The mutex is the field
`lock`, holding the thread that owns it.

The collaborators the object calls into (`DBusWatchList`, the data-slot list, the application's
functions) are not among the sources.  Their effect is modelled from the spec, and what they
may do that the object cannot know in advance (an allocation failing, an application `add`
function refusing a watch) is an argument.
-/

namespace DBus

/-! ## 1. The two registries -/

/-- Which registry a call works on: `server->watches` or `server->timeouts`.  The two
families of functions (`protected_change_watch` / `_timeout`, `_dbus_server_add_watch` /
`_timeout`, `dbus_server_set_watch_functions` / `_timeout_functions`) are the same code on the
two fields. -/
inductive ListKind
  | watch
  | timeout
  deriving DecidableEq, Repr

/-- The list operation `protected_change_*` performs: its `add_function`, `remove_function`,
or `toggle_function` with `enabled`, on one watch or timeout handle. -/
inductive Change
  | add (w : Nat)
  | remove (w : Nat)
  | toggle (w : Nat) (enabled : Bool)
  deriving DecidableEq, Repr

/-- A `DBusWatchList` (or `DBusTimeoutList`): the handles it holds with their enabled flag,
and which application functions are installed (`0` for none). -/
structure DBusWatchList where
  items : List (Nat × Bool)
  functions : Nat
  deriving DecidableEq, Repr

namespace DBusWatchList

/-- Modelled from the spec (§4.3; `dbus-watch.c` is not among the sources): `add` appends the
interest unless it fails (`ok` is what `_dbus_watch_list_add_watch` returns); `remove` drops it;
`toggle` sets its enabled flag. -/
def apply (l : DBusWatchList) : Change → Bool → DBusWatchList
  | .add w, ok => if ok then { l with items := l.items ++ [(w, true)] } else l
  | .remove w, _ => { l with items := l.items.eraseP (·.1 == w) }
  | .toggle w e, _ => { l with items := l.items.map fun p => if p.1 = w then (w, e) else p }

/-- Modelled from the spec (§4.3): `_dbus_watch_list_set_functions` installs the new functions
when replaying the buffered interests through them succeeds (`ok`), and changes nothing
otherwise. -/
def setFunctions (l : DBusWatchList) (fns : Nat) (ok : Bool) : DBusWatchList :=
  if ok then { l with functions := fns } else l

end DBusWatchList

/-- The value `protected_change_*` returns for a list operation with outcome `ok`: the result of
`add_function`, and `TRUE` for remove and toggle. -/
def Change.retval : Change → Bool → Bool
  | .add _, ok => ok
  | _, _ => true

/-! ## 2. Callbacks and data slots -/

/-- A `(function, data, free_data_function)` triple as `dbus_server_set_new_connection_function`
stores it; `none` is `NULL`. -/
structure NewConnection where
  function : Option Nat
  data : Nat
  free : Option Nat
  deriving DecidableEq, Repr

/-- The triple of a fresh server, and the one `_dbus_server_finalize_base` installs. -/
def NewConnection.null : NewConnection := ⟨none, 0, none⟩

/-- One entry of the server's `slot_list`: the data and its destructor. -/
structure DataSlot where
  data : Nat
  free : Option Nat
  deriving DecidableEq, Repr

/-- An unused slot. -/
def DataSlot.empty : DataSlot := ⟨0, none⟩

/-! ## 3. The record -/

/-- The fields of `DBusServer` that `dbus-server.c` reads or writes.  `lock` is the mutex, by
the thread that holds it; `watches`/`timeouts` are `none` while a call has the registry
detached. -/
structure DBusServer where
  refcount : Nat
  disconnected : Bool
  lock : Option Nat
  watches : Option DBusWatchList
  timeouts : Option DBusWatchList
  newConnection : NewConnection
  authMechanisms : Option (List String)
  slotList : List DataSlot
  address : Option String
  guidHex : Option String
  deriving DecidableEq, Repr

namespace DBusServer

/-- The registry field of kind `k`. -/
def list (s : DBusServer) : ListKind → Option DBusWatchList
  | .watch => s.watches
  | .timeout => s.timeouts

/-- Store `l` in the registry field of kind `k`. -/
def setList (s : DBusServer) : ListKind → Option DBusWatchList → DBusServer
  | .watch, l => { s with watches := l }
  | .timeout, l => { s with timeouts := l }

@[simp] theorem list_setList (s : DBusServer) (k k' : ListKind) (l : Option DBusWatchList) :
    (s.setList k l).list k' = if k = k' then l else s.list k' := by
  cases k <;> cases k' <;> rfl

@[simp] theorem setList_refcount (s : DBusServer) (k : ListKind) (l : Option DBusWatchList) :
    (s.setList k l).refcount = s.refcount := by
  cases k <;> rfl

@[simp] theorem setList_disconnected (s : DBusServer) (k : ListKind)
    (l : Option DBusWatchList) : (s.setList k l).disconnected = s.disconnected := by
  cases k <;> rfl

@[simp] theorem setList_lock (s : DBusServer) (k : ListKind) (l : Option DBusWatchList) :
    (s.setList k l).lock = s.lock := by
  cases k <;> rfl

@[simp] theorem setList_newConnection (s : DBusServer) (k : ListKind)
    (l : Option DBusWatchList) : (s.setList k l).newConnection = s.newConnection := by
  cases k <;> rfl

@[simp] theorem list_with_lock (s : DBusServer) (l : Option Nat) (k : ListKind) :
    { s with lock := l }.list k = s.list k := by
  cases k <;> rfl

@[simp] theorem list_with_newConnection (s : DBusServer) (cb : NewConnection) (k : ListKind) :
    { s with newConnection := cb }.list k = s.list k := by
  cases k <;> rfl

@[simp] theorem list_with_slotList (s : DBusServer) (l : List DataSlot) (k : ListKind) :
    { s with slotList := l }.list k = s.list k := by
  cases k <;> rfl

end DBusServer

/-! ## 4. The code between two interleaving points

Each function below is the code a thread runs from one interleaving point to the next.  A
`SERVER_LOCK` that the block starts with is its precondition `lock = none` (the step relation
waits for it); a `SERVER_LOCK ... SERVER_UNLOCK` pair inside one block leaves `lock` as it was.
Only the blocks that END holding the lock, or that release a lock taken in an earlier block,
write `lock`. -/

section Blocks

-- `t`: the thread running the block.
variable (t : Nat)

/-- `_dbus_atomic_inc (&server->refcount)`, in `dbus_server_ref` and
`_dbus_server_ref_unlocked`. -/
def refInc (s : DBusServer) : DBusServer := { s with refcount := s.refcount + 1 }

/-- `_dbus_atomic_dec (&server->refcount)`, in `dbus_server_unref` and
`_dbus_server_unref_unlocked`. -/
def refDec (s : DBusServer) : DBusServer := { s with refcount := s.refcount - 1 }

/-- `last_unref = (_dbus_atomic_dec (&server->refcount) == 1)`, read before the decrement. -/
def lastUnref (s : DBusServer) : Bool := s.refcount == 1

theorem lastUnref_iff {s : DBusServer} : lastUnref s = true ↔ s.refcount = 1 := by
  simp [lastUnref]

/-- `dbus_server_disconnect` from `SERVER_LOCK` to the call of `vtable->disconnect`, or to
`SERVER_UNLOCK` when already disconnected (lines 737-748).  The flag: `vtable->disconnect` is
called. -/
def disconnectLocked (s : DBusServer) : DBusServer × Bool :=
  let s := refInc { s with lock := some t }
  if s.disconnected then (s, false) else ({ s with disconnected := true }, true)

/-- `protected_change_watch`/`_timeout` up to the call of the list operation (lines 226-231):
with the registry attached, detach it, `_dbus_server_ref_unlocked` and `SERVER_UNLOCK`; with it
detached, nothing (`return FALSE`). -/
def protectedChangeEntry (k : ListKind) (s : DBusServer) : DBusServer × Option DBusWatchList :=
  match s.list k with
  | some l => ({ refInc (s.setList k none) with lock := none }, some l)
  | none => (s, none)

/-- `protected_change_*` from `SERVER_LOCK` after the list operation (lines 246-248): reattach
the registry and `_dbus_server_unref_unlocked`, which on the last reference unlocks
(line 715) before calling `vtable->finalize`. -/
def protectedChangeRelock (k : ListKind) (l : DBusWatchList) (s : DBusServer) : DBusServer :=
  let s' := refDec ({ s with lock := some t }.setList k (some l))
  if lastUnref s then { s' with lock := none } else s'

/-- `dbus_server_set_watch_functions`/`_timeout_functions` from `SERVER_LOCK` (lines 867-887):
take the registry out.  With it attached, the block ends at `SERVER_UNLOCK` before
`_dbus_watch_list_set_functions`; with it already detached the code warns, writes the `NULL`
back and unlocks. -/
def setFunctionsLocked (k : ListKind) (s : DBusServer) : DBusServer × Option DBusWatchList :=
  (s.setList k none, s.list k)

/-- `SERVER_LOCK; server->watches = watches; SERVER_UNLOCK` (lines 879-887). -/
def setFunctionsRelock (k : ListKind) (l : DBusWatchList) (s : DBusServer) : DBusServer :=
  s.setList k (some l)

/-- `dbus_server_set_new_connection_function` from `SERVER_LOCK` to `SERVER_UNLOCK`
(lines 825-832): install the new triple and hand back the old one, whose destructor is called
after the unlock. -/
def swapNewConnection (cb : NewConnection) (s : DBusServer) : DBusServer × NewConnection :=
  ({ s with newConnection := cb }, s.newConnection)

/-- Modelled from the spec (§4.4; `dbus-dataslot.c` is not among the sources):
`_dbus_data_slot_list_set` stores the entry and hands back the previous one.  Only growing the
list allocates, so only then can it fail (`ok`), and a failure leaves the list alone. -/
def dataSlotListSet (l : List DataSlot) (slot : Nat) (entry : DataSlot) (ok : Bool) :
    Option (List DataSlot × DataSlot) :=
  if h : slot < l.length then some (l.set slot entry, l.get ⟨slot, h⟩)
  else if ok then some (l ++ List.replicate (slot - l.length) DataSlot.empty ++ [entry],
    DataSlot.empty)
  else none

/-- `dbus_server_set_data` from `SERVER_LOCK` to `SERVER_UNLOCK` (lines 1052-1060): the old
entry on success, whose destructor is called after the unlock; `none` is `FALSE`. -/
def setDataLocked (slot : Nat) (entry : DataSlot) (ok : Bool) (s : DBusServer) :
    DBusServer × Option DataSlot :=
  match dataSlotListSet s.slotList slot entry ok with
  | some (l, old) => ({ s with slotList := l }, some old)
  | none => (s, none)

/-- **`dbus_server_set_auth_mechanisms`** (lines 963-979); `ok` says whether
`_dbus_dup_string_array` succeeds.  When it fails the function returns `FALSE` at line 969,
which is before `SERVER_UNLOCK`: the thread still holds the lock. -/
def dbusServerSetAuthMechanisms (mechanisms : Option (List String)) (ok : Bool)
    (s : DBusServer) : DBusServer × Bool :=
  match mechanisms with
  | some _ => if ok then ({ s with authMechanisms := mechanisms }, true)
    else ({ s with lock := some t }, false)
  | none => ({ s with authMechanisms := none }, true)

end Blocks

/-- `_dbus_data_slot_list_free` at the start of `_dbus_server_finalize_base`: the slots whose
destructors it calls, and an empty list. -/
def slotListFree (s : DBusServer) : DBusServer × List DataSlot :=
  ({ s with slotList := [] }, s.slotList)

/-- The rest of `_dbus_server_finalize_base` (lines 182-193): replace the new-connection triple
by `NULL`s (`dbus_server_set_new_connection_function`, whose old destructor is called), free the
two registries, the address, the mechanisms and the guid. -/
def finalizeBaseRest (s : DBusServer) : DBusServer × NewConnection :=
  let (s, old) := swapNewConnection NewConnection.null s
  ({ s with
    watches := none, timeouts := none, address := none, authMechanisms := none, guidHex := none },
    old)

/-! ## 5. What each block does to the fields the invariants read -/

section Fields

variable {t : Nat} {s : DBusServer} {k : ListKind}

@[simp] theorem setFunctionsLocked_eq : setFunctionsLocked k s = (s.setList k none, s.list k) := rfl
@[simp] theorem setFunctionsRelock_eq {l : DBusWatchList} :
    setFunctionsRelock k l s = s.setList k (some l) := rfl
section
variable {cb : NewConnection}
@[simp] theorem swapNewConnection_refcount : (swapNewConnection cb s).1.refcount = s.refcount := rfl
@[simp] theorem swapNewConnection_disconnected :
    (swapNewConnection cb s).1.disconnected = s.disconnected := rfl
@[simp] theorem swapNewConnection_lock : (swapNewConnection cb s).1.lock = s.lock := rfl
@[simp] theorem swapNewConnection_list : (swapNewConnection cb s).1.list k = s.list k := by
  cases k <;> rfl
@[simp] theorem swapNewConnection_newConnection : (swapNewConnection cb s).1.newConnection = cb :=
  rfl
@[simp] theorem swapNewConnection_old : (swapNewConnection cb s).2 = s.newConnection := rfl
end
@[simp] theorem slotListFree_refcount : (slotListFree s).1.refcount = s.refcount := rfl
@[simp] theorem slotListFree_disconnected : (slotListFree s).1.disconnected = s.disconnected := rfl
@[simp] theorem slotListFree_lock : (slotListFree s).1.lock = s.lock := rfl
@[simp] theorem slotListFree_list : (slotListFree s).1.list k = s.list k := by cases k <;> rfl
@[simp] theorem slotListFree_newConnection : (slotListFree s).1.newConnection = s.newConnection :=
  rfl
@[simp] theorem finalizeBaseRest_refcount : (finalizeBaseRest s).1.refcount = s.refcount := rfl
@[simp] theorem finalizeBaseRest_disconnected :
    (finalizeBaseRest s).1.disconnected = s.disconnected := rfl
@[simp] theorem finalizeBaseRest_lock : (finalizeBaseRest s).1.lock = s.lock := rfl
@[simp] theorem finalizeBaseRest_list : (finalizeBaseRest s).1.list k = none := by cases k <;> rfl
@[simp] theorem finalizeBaseRest_newConnection :
    (finalizeBaseRest s).1.newConnection = NewConnection.null := rfl
@[simp] theorem finalizeBaseRest_old : (finalizeBaseRest s).2 = s.newConnection := rfl

@[simp] theorem refInc_refcount : (refInc s).refcount = s.refcount + 1 := rfl
@[simp] theorem refDec_refcount : (refDec s).refcount = s.refcount - 1 := rfl
@[simp] theorem refInc_disconnected : (refInc s).disconnected = s.disconnected := rfl
@[simp] theorem refDec_disconnected : (refDec s).disconnected = s.disconnected := rfl
@[simp] theorem refInc_lock : (refInc s).lock = s.lock := rfl
@[simp] theorem refDec_lock : (refDec s).lock = s.lock := rfl
@[simp] theorem refInc_list : (refInc s).list k = s.list k := by cases k <;> rfl
@[simp] theorem refDec_list : (refDec s).list k = s.list k := by cases k <;> rfl
@[simp] theorem refInc_newConnection : (refInc s).newConnection = s.newConnection := rfl
@[simp] theorem refDec_newConnection : (refDec s).newConnection = s.newConnection := rfl

@[simp] theorem disconnectLocked_refcount : (disconnectLocked t s).1.refcount = s.refcount + 1 := by
  cases h : s.disconnected <;> simp [disconnectLocked, refInc, h]
@[simp] theorem disconnectLocked_disconnected : (disconnectLocked t s).1.disconnected = true := by
  cases h : s.disconnected <;> simp [disconnectLocked, refInc, h]
@[simp] theorem disconnectLocked_calls : (disconnectLocked t s).2 = !s.disconnected := by
  cases h : s.disconnected <;> simp [disconnectLocked, refInc, h]
@[simp] theorem disconnectLocked_lock : (disconnectLocked t s).1.lock = some t := by
  cases h : s.disconnected <;> simp [disconnectLocked, refInc, h]
@[simp] theorem disconnectLocked_list : (disconnectLocked t s).1.list k = s.list k := by
  cases h : s.disconnected <;> cases k <;> simp [disconnectLocked, refInc, h, DBusServer.list]
@[simp] theorem disconnectLocked_newConnection :
    (disconnectLocked t s).1.newConnection = s.newConnection := by
  cases h : s.disconnected <;> simp [disconnectLocked, refInc, h]

theorem protectedChangeEntry_of_some {l : DBusWatchList} (h : s.list k = some l) :
    protectedChangeEntry k s = ({ refInc (s.setList k none) with lock := none }, some l) := by
  simp [protectedChangeEntry, h]

theorem protectedChangeEntry_of_none (h : s.list k = none) : protectedChangeEntry k s = (s, none) := by
  simp [protectedChangeEntry, h]

@[simp] theorem protectedChangeEntry_list {k' : ListKind} :
    (protectedChangeEntry k s).1.list k' = if k = k' then none else s.list k' := by
  unfold protectedChangeEntry
  split <;> cases k <;> cases k' <;> simp_all [DBusServer.list, DBusServer.setList, refInc]

@[simp] theorem protectedChangeEntry_disconnected :
    (protectedChangeEntry k s).1.disconnected = s.disconnected := by
  unfold protectedChangeEntry; split <;> simp [refInc]

@[simp] theorem protectedChangeEntry_newConnection :
    (protectedChangeEntry k s).1.newConnection = s.newConnection := by
  unfold protectedChangeEntry; split <;> simp [refInc]

@[simp] theorem protectedChangeRelock_refcount {l : DBusWatchList} :
    (protectedChangeRelock t k l s).refcount = s.refcount - 1 := by
  unfold protectedChangeRelock; split <;> simp [refDec]
@[simp] theorem protectedChangeRelock_disconnected {l : DBusWatchList} :
    (protectedChangeRelock t k l s).disconnected = s.disconnected := by
  unfold protectedChangeRelock; split <;> simp [refDec]
@[simp] theorem protectedChangeRelock_lock {l : DBusWatchList} :
    (protectedChangeRelock t k l s).lock = if lastUnref s then none else some t := by
  unfold protectedChangeRelock; split <;> simp_all [refDec]
@[simp] theorem protectedChangeRelock_list {l : DBusWatchList} {k' : ListKind} :
    (protectedChangeRelock t k l s).list k' = if k = k' then some l else s.list k' := by
  unfold protectedChangeRelock
  split <;> cases k <;> cases k' <;> rfl
@[simp] theorem protectedChangeRelock_newConnection {l : DBusWatchList} :
    (protectedChangeRelock t k l s).newConnection = s.newConnection := by
  unfold protectedChangeRelock; split <;> simp [refDec]

/-- `dbus_server_set_data` writes the slot list and nothing else. -/
theorem setDataLocked_eq (slot : Nat) (e : DataSlot) (ok : Bool) (s : DBusServer) :
    ∃ l, (setDataLocked slot e ok s).1 = { s with slotList := l } := by
  unfold setDataLocked; split <;> exact ⟨_, rfl⟩

@[simp] theorem setDataLocked_refcount {slot : Nat} {e : DataSlot} {ok : Bool} :
    (setDataLocked slot e ok s).1.refcount = s.refcount := by
  obtain ⟨l, h⟩ := setDataLocked_eq slot e ok s; rw [h]
@[simp] theorem setDataLocked_disconnected {slot : Nat} {e : DataSlot} {ok : Bool} :
    (setDataLocked slot e ok s).1.disconnected = s.disconnected := by
  obtain ⟨l, h⟩ := setDataLocked_eq slot e ok s; rw [h]
@[simp] theorem setDataLocked_lock {slot : Nat} {e : DataSlot} {ok : Bool} :
    (setDataLocked slot e ok s).1.lock = s.lock := by
  obtain ⟨l, h⟩ := setDataLocked_eq slot e ok s; rw [h]
@[simp] theorem setDataLocked_list {slot : Nat} {e : DataSlot} {ok : Bool} :
    (setDataLocked slot e ok s).1.list k = s.list k := by
  obtain ⟨l, h⟩ := setDataLocked_eq slot e ok s
  rw [h]; cases k <;> rfl
@[simp] theorem setDataLocked_newConnection {slot : Nat} {e : DataSlot} {ok : Bool} :
    (setDataLocked slot e ok s).1.newConnection = s.newConnection := by
  obtain ⟨l, h⟩ := setDataLocked_eq slot e ok s; rw [h]

@[simp] theorem dbusServerSetAuthMechanisms_refcount {m : Option (List String)} {ok : Bool} :
    (dbusServerSetAuthMechanisms t m ok s).1.refcount = s.refcount := by
  unfold dbusServerSetAuthMechanisms; split <;> (try split) <;> rfl
@[simp] theorem dbusServerSetAuthMechanisms_disconnected {m : Option (List String)} {ok : Bool} :
    (dbusServerSetAuthMechanisms t m ok s).1.disconnected = s.disconnected := by
  unfold dbusServerSetAuthMechanisms; split <;> (try split) <;> rfl
@[simp] theorem dbusServerSetAuthMechanisms_list {m : Option (List String)} {ok : Bool} :
    (dbusServerSetAuthMechanisms t m ok s).1.list k = s.list k := by
  unfold dbusServerSetAuthMechanisms; split <;> (try split) <;> cases k <;> rfl
@[simp] theorem dbusServerSetAuthMechanisms_newConnection {m : Option (List String)} {ok : Bool} :
    (dbusServerSetAuthMechanisms t m ok s).1.newConnection = s.newConnection := by
  unfold dbusServerSetAuthMechanisms; split <;> (try split) <;> rfl
theorem dbusServerSetAuthMechanisms_lock {m : Option (List String)} {ok : Bool} :
    (dbusServerSetAuthMechanisms t m ok s).1.lock =
      if m.isSome && !ok then some t else s.lock := by
  unfold dbusServerSetAuthMechanisms; split <;> (try split) <;> simp_all

/-- **A failed copy returns with the lock held.**  When `_dbus_dup_string_array` fails,
`dbus_server_set_auth_mechanisms` returns `FALSE` at line 969, between its `SERVER_LOCK`
(line 963) and its `SERVER_UNLOCK` (line 977): the mechanisms are unchanged, and the calling
thread still holds the lock it took. -/
theorem dbusServerSetAuthMechanisms_failure_keeps_lock (m : List String) :
    dbusServerSetAuthMechanisms t (some m) false s = ({ s with lock := some t }, false) := rfl

end Fields

/-- `dbus_server_get_is_connected` (lines 766-768). -/
def dbusServerGetIsConnected (s : DBusServer) : Bool := !s.disconnected

/-- `dbus_server_get_address` (lines 787-789): a copy of the address. -/
def dbusServerGetAddress (s : DBusServer) : Option String := s.address

/-- `dbus_server_get_data` (lines 1088-1094), with `_dbus_data_slot_list_get` modelled from the
spec: the stored data, or `NULL` (`0`) for a slot beyond the list. -/
def dbusServerGetData (s : DBusServer) (slot : Nat) : Nat :=
  (s.slotList.get? slot).elim 0 (·.data)

/-- **`dbus_server_get_data` reads back what `dbus_server_set_data` stored.**  The critical
section of `dbus_server_set_data` either fails, which only a failed allocation makes it do, and
leaves the server as it was; or it hands back the entry the slot held before (an empty one for a
slot never set), whose destructor the caller then runs, and from then on `dbus_server_get_data`
returns the new data for that slot and the old data for every other slot. -/
theorem dbusServerGetData_after_set (slot : Nat) (e : DataSlot) (ok : Bool) (s : DBusServer) :
    ((setDataLocked slot e ok s).2 = none ∧ (setDataLocked slot e ok s).1 = s ∧ ok = false) ∨
      ((setDataLocked slot e ok s).2 = some ((s.slotList.get? slot).getD DataSlot.empty) ∧
        ∀ j, dbusServerGetData (setDataLocked slot e ok s).1 j =
          if j = slot then e.data else dbusServerGetData s j) := by
  unfold setDataLocked dataSlotListSet
  split_ifs with hlt hok
  · -- the slot is in the list: it is overwritten in place
    right
    refine ⟨by simp [hlt], fun j => ?_⟩
    by_cases hj : j = slot
    · subst hj; simp [dbusServerGetData, hlt]
    · simp [dbusServerGetData, hj, List.getElem?_set, Ne.symm hj]
  · -- the list grows to the slot, padded with empty slots
    right
    refine ⟨by simp [List.getElem?_eq_none (Nat.le_of_not_lt hlt)], fun j => ?_⟩
    simp only [dbusServerGetData, List.get?_eq_getElem?]
    rcases Nat.lt_or_ge j s.slotList.length with hj | hj
    · simp [List.getElem?_append_left, hj, show j ≠ slot by omega]
    · rw [List.append_assoc, List.getElem?_append_right hj, List.getElem?_eq_none hj]
      rcases Nat.lt_trichotomy j slot with hs | rfl | hs
      · simp [List.getElem?_append_left, List.getElem?_replicate, show j - s.slotList.length <
          slot - s.slotList.length by omega, show j ≠ slot by omega, DataSlot.empty]
      · simp
      · rw [List.getElem?_eq_none (by simp; omega)]
        simp [show j ≠ slot by omega]
  · -- growing the list fails
    exact .inl ⟨rfl, rfl, by simpa using hok⟩

end DBus
