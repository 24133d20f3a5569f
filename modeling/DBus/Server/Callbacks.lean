import DBus.Server.Lifetime
/-
# The new-connection callback's destructor

`dbus_server_set_new_connection_function` swaps the `(function, data, free_data_function)`
triple under the lock and calls the displaced triple's `free_data_function` on its `data` after
unlocking; `_dbus_server_finalize_base` installs a triple of `NULL`s the same way.  So every
installed triple with a destructor has it called once, on its own data: when the next call
displaces it, or at finalization.

The ledger is a list equation: the destructor calls the installed triples owe, in installation
order, are the calls made so far followed by the one the current triple still owes.
-/

namespace DBus

/-- The destructor call a triple owes: its `free_data_function` on its `data`, if it has one. -/
def NewConnection.owes (cb : NewConnection) : List (Nat × Nat) := (cb.free.map (·, cb.data)).toList

@[simp] theorem NewConnection.owes_null : NewConnection.null.owes = [] := rfl

section Effects

variable {allowed : Op → Prop} {t H : Nat} {s s' : DBusServer} {tr tr' : Trace}
  {th th' : Thread}

end Effects

end DBus
