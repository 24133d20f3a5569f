import Mathlib.Data.List.Basic
/-
# `dbus_server_listen`: the faithful model

`dbus_server_listen` (`dbus-server.c`, lines 476-598) parses the address into entries and, for
each entry in order, calls each function of the table `listen_funcs` in order.  A backend call
answers one of four `DBusServerListenResult`s.  `OK` and `BAD_ADDRESS` end the scan at once
(`goto out`); `NOT_HANDLED` and `DID_NOT_CONNECT` keep it going, and the first
`DID_NOT_CONNECT` error is kept in the local `first_connect_error` as the fallback diagnostic.

This module translates that function as the source writes it: the two `for` loops, the
`goto out`, the exit paths, and every `_dbus_assert`.  An assertion is RECORDED, not aborting, so
that one run shows every assertion that fails and what a build without assertions returns.  The
model also keeps what the C code only does to memory: which backends were called, which
`DBusError`s were freed, and how often the entries array was released.

The backends themselves are not modelled.  What backend `f` answers for entry `i` is an arbitrary
function `backend i f`, which is exactly "every assignment of outcomes to the attempts".
-/

namespace DBus

/-! ## 1. Errors and address entries -/

/-- A set `DBusError`, by its `name` and `message`.  A clear error is `none`. -/
structure DBusError where
  name : String
  message : String
  deriving DecidableEq, Repr

/-- Modelled from the spec: `DBUS_ERROR_BAD_ADDRESS` (`dbus-protocol.h`, not among the sources),
the error name for an address that is malformed or names no known transport. -/
def DBUS_ERROR_BAD_ADDRESS : String := "org.freedesktop.DBus.Error.BadAddress"

/-- A parsed `DBusAddressEntry`.  The scan reads only its method, through
`dbus_address_entry_get_method`; the key/value pairs are read by the backends alone. -/
structure DBusAddressEntry where
  method : String
  deriving DecidableEq, Repr

/-- `"Unknown address type '%s'"`, naming the method of `entries[0]` (line 559). -/
def unknownAddressType (method : String) : DBusError :=
  ⟨DBUS_ERROR_BAD_ADDRESS, "Unknown address type \x27" ++ method ++ "\x27"⟩

/-- `"Empty address '%s'"`, naming the whole address string (line 564). -/
def emptyAddress (address : String) : DBusError :=
  ⟨DBUS_ERROR_BAD_ADDRESS, "Empty address \x27" ++ address ++ "\x27"⟩

/-! ## 2. The backend table -/

/-- `DBusServerListenResult` (`dbus-server-protected.h`). -/
inductive DBusServerListenResult
  | notHandled
  | ok
  | badAddress
  | didNotConnect
  deriving DecidableEq, Repr

/-- The entries of `listen_funcs`: `_dbus_server_listen_socket`,
`_dbus_server_listen_platform_specific` and `_dbus_server_listen_debug_pipe`. -/
inductive ListenFunc
  | socket
  | platformSpecific
  | debugPipe
  deriving DecidableEq, Repr

/-- `listen_funcs[]` in table order; the debug pipe is compiled in only with `DBUS_BUILD_TESTS`. -/
def listenFuncs (buildTests : Bool) : List ListenFunc :=
  [.socket, .platformSpecific] ++ if buildTests then [.debugPipe] else []

/-- What one call `(* listen_funcs[j].func) (entries[i], &server, &tmp_error)` leaves behind: its
result, the value stored through `server_p` (a server handle, `none` for `NULL`), and
`tmp_error`. -/
structure ListenAttempt where
  result : DBusServerListenResult
  server : Option Nat
  error : Option DBusError
  deriving DecidableEq, Repr

/-! ## 3. The state of one call -/

/-- The assertions of `dbus_server_listen`, each by what it checks: after `OK`, `server != NULL`
and `tmp_error` clear (lines 512-513); after `BAD_ADDRESS`, `server == NULL` and `tmp_error` set
(lines 519-520); after `NOT_HANDLED`, `server == NULL` and `tmp_error` clear (lines 527-528);
after `DID_NOT_CONNECT`, `server == NULL` and `tmp_error` set (lines 534-535); after an entry's
backend loop, `server == NULL` and `*error` clear (lines 547-548); `*error` clear when no backend
handled the address (line 555); some error set on the failure path (line 572);
`first_connect_error` set when it is to be moved out (line 584); `first_connect_error` clear and
`*error` set before `return NULL` (lines 588-589); `*error` clear before `return server`
(line 595). -/
inductive ListenAssert
  | okServer
  | okErrorClear
  | badServer
  | badErrorSet
  | notHandledServer
  | notHandledErrorClear
  | connectServer
  | connectErrorSet
  | entryServer
  | entryErrorClear
  | unhandledErrorClear
  | failureSomeError
  | failureConnectSet
  | connectFreed
  | failureErrorSet
  | successErrorClear
  deriving DecidableEq, Repr

/-- The locals of `dbus_server_listen` and the caller's `*error` (`none` also when `error` is
`NULL`), with what the call has done so far: the backend calls made, the errors freed, the
assertions that failed, and the calls of `dbus_address_entries_free`. -/
structure ListenState where
  server : Option Nat
  error : Option DBusError
  firstConnectError : Option DBusError
  handledOnce : Bool
  invoked : List (Nat × ListenFunc)
  freed : List DBusError
  failed : List ListenAssert
  entriesFreed : Nat
  deriving DecidableEq, Repr

namespace ListenState

/-- `_dbus_assert (cond)`, recorded. -/
def check (st : ListenState) (site : ListenAssert) (cond : Bool) : ListenState :=
  if cond then st else { st with failed := st.failed ++ [site] }

/-- `dbus_error_free` of a local error: a set error is released. -/
def free (st : ListenState) (e : Option DBusError) : ListenState :=
  { st with freed := st.freed ++ e.toList }

/-- `dbus_move_error (src, error)`.  With `error == NULL` it frees `src`; with `*error` already
set it returns at `_dbus_return_if_error_is_set` and leaves `src` alone; otherwise `src` moves
into `*error`.  The second component is what is left in `src`. -/
def moveError (nn : Bool) (st : ListenState) (src : Option DBusError) :
    ListenState × Option DBusError :=
  if !nn then (st.free src, none)
  else if st.error.isSome then (st, src)
  else ({ st with error := src }, none)

/-- `dbus_set_error (error, ...)`: nothing when `error` is `NULL` or already set. -/
def setError (nn : Bool) (st : ListenState) (e : DBusError) : ListenState :=
  if nn && st.error.isNone then { st with error := some e } else st

/-- `_DBUS_ASSERT_ERROR_IS_CLEAR (error)`: a `NULL` error passes. -/
def errorIsClear (nn : Bool) (st : ListenState) : Bool := !nn || st.error.isNone

/-- `_DBUS_ASSERT_ERROR_IS_SET (error)`: a `NULL` error passes. -/
def errorIsSet (nn : Bool) (st : ListenState) : Bool := !nn || st.error.isSome

@[simp] theorem check_true (st : ListenState) (site : ListenAssert) : st.check site true = st :=
  rfl

theorem check_eq (st : ListenState) (site : ListenAssert) (cond : Bool) :
    st.check site cond = { st with failed := st.failed ++ if cond then [] else [site] } := by
  cases cond <;> simp [check]

end ListenState

/-- Where control goes after a backend call: on with the scan, or `goto out`. -/
inductive Flow (α : Type) where
  | next (a : α)
  | out (a : α)
  deriving DecidableEq, Repr

/-- The state a loop leaves, whichever way it left. -/
def Flow.get {α : Type} : Flow α → α
  | .next a => a
  | .out a => a

/-! ## 4. The scan -/

section Scan

-- `nn`: whether the caller passed a non-`NULL` `error`.
variable (nn : Bool)

open ListenState

/-- One backend call and the `if` chain after it (lines 505-544). -/
def listenAttempt (i : Nat) (f : ListenFunc) (a : ListenAttempt) (st : ListenState) :
    Flow ListenState :=
  let st := { st with server := a.server, invoked := st.invoked ++ [(i, f)] }
  match a.result with
  | .ok =>
    .out { st.check .okServer a.server.isSome |>.check .okErrorClear a.error.isNone with
      handledOnce := true }
  | .badAddress =>
    let st := st.check .badServer a.server.isNone |>.check .badErrorSet a.error.isSome
    .out { (st.moveError nn a.error).1 with handledOnce := true }
  | .notHandled =>
    .next (st.check .notHandledServer a.server.isNone |>.check .notHandledErrorClear
      a.error.isNone)
  | .didNotConnect =>
    let st := st.check .connectServer a.server.isNone |>.check .connectErrorSet a.error.isSome
    let st := if st.firstConnectError.isNone then { st with firstConnectError := a.error }
      else st.free a.error
    .next { st with handledOnce := true }

variable (backend : Nat → ListenFunc → ListenAttempt)

/-- The inner loop, `for (j = 0; j < _DBUS_N_ELEMENTS (listen_funcs); ++j)`, over entry `i`. -/
def listenEntry (i : Nat) : List ListenFunc → ListenState → Flow ListenState
  | [], st => .next st
  | f :: fs, st =>
    match listenAttempt nn i f (backend i f) st with
    | .next st => listenEntry i fs st
    | .out st => .out st

/-- The outer loop, `for (i = 0; i < len; i++)`, with the two assertions after each entry
(lines 547-548). -/
def listenEntries (funcs : List ListenFunc) : List Nat → ListenState → Flow ListenState
  | [], st => .next st
  | i :: is, st =>
    match listenEntry nn backend i funcs st with
    | .next st =>
      listenEntries funcs is
        (st.check .entryServer st.server.isNone |>.check .entryErrorClear (st.errorIsClear nn))
    | .out st => .out st

end Scan

/-- The error set when no backend handled the address (lines 556-565): unknown type, naming the
method of `entries[0]`, or empty address. -/
def unhandledError (address : String) : List DBusAddressEntry → DBusError
  | e :: _ => unknownAddressType e.method
  | [] => emptyAddress address

/-- The code after `out:` (lines 551-597): the fallback error, `dbus_address_entries_free`, and
the two returns. -/
def listenOut (nn : Bool) (address : String) (entries : List DBusAddressEntry)
    (st : ListenState) : Option Nat × ListenState :=
  let st := if st.handledOnce then st else
    (st.check .unhandledErrorClear (st.errorIsClear nn)).setError nn
      (unhandledError address entries)
  let st := { st with entriesFreed := st.entriesFreed + 1 }
  match st.server with
  | some srv => (some srv, st.check .successErrorClear (st.errorIsClear nn))
  | none =>
    let st := st.check .failureSomeError
      (!nn || st.firstConnectError.isSome || st.error.isSome)
    let st := if nn && st.error.isSome then st else
      let st := st.check .failureConnectSet (!nn || st.firstConnectError.isSome)
      let r := st.moveError nn st.firstConnectError
      { r.1 with firstConnectError := r.2 }
    let st := st.check .connectFreed st.firstConnectError.isNone
    (none, st.check .failureErrorSet (st.errorIsSet nn))

/-- **`dbus_server_listen (address, error)`.**  `error` is `none` for a `NULL` pointer and
`some e` for a pointer to `e`; `parsed` is what `dbus_parse_address` made of `address`; and
`backend i f` is what backend `f` answers for `entries[i]`.  Returns the server handle and the
final state, whose `error` is `*error`. -/
def dbusServerListen (buildTests : Bool) (backend : Nat → ListenFunc → ListenAttempt)
    (address : String) (parsed : Except DBusError (List DBusAddressEntry))
    (error : Option (Option DBusError)) : Option Nat × ListenState :=
  let nn := error.isSome
  let st : ListenState := ⟨none, error.join, none, false, [], [], [], 0⟩
  if error.join.isSome then (none, st)
  else match parsed with
    | .error e => (none, st.setError nn e)
    | .ok entries =>
      listenOut nn address entries
        (listenEntries nn backend (listenFuncs buildTests) (List.range entries.length) st).get

end DBus
