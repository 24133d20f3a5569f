import DBus.Server.Threads
/-
# Building the record: `_dbus_server_init_base`

`_dbus_server_init_base` (lines 96-160) fills in the base record that a backend's constructor
has just allocated: the reference count, the guid and its hex form, the public address, the
mutex and the two registries.  The public address is the given address with `,guid=` and the hex
guid appended (`copy_address_with_guid_appended`, lines 59-85).  Each of these is an allocation
that can fail.  Every failure jumps to `failed:`, which frees what is there and returns `FALSE`.

The model keeps a ledger of live blocks.  On success the heap holds five blocks more, all of
them the record's; on failure every block the function allocated has been freed once, and its
pointers are `NULL` again (`dbusServerInitBase_ledger`).  That needs `server->mutex` to be `NULL`
on entry: the function does not set the field before its first `goto failed`, and the
`_dbus_mutex_free_at_location` there frees whatever the field holds.  A record fresh from
`dbus_new0` has it `NULL`; on one that is not zeroed the cleanup frees a mutex the function never
created (`dbusServerInitBase_stale_mutex`).  Last, the record a successful call builds is a valid
initial state of the thread model of `Threads` (`dbusServerInitBase_init`), which is what the
results about whole runs start from.
-/

namespace DBus

/-! ## 1. Blocks, the heap, and the allocations -/

/-- The blocks the two functions allocate: the buffer of `server->guid_hex`, the buffer of the
local `with_guid` of `copy_address_with_guid_appended`, `server->address`, `server->mutex`,
`server->watches` and `server->timeouts`. -/
inductive Block
  | guidHex
  | withGuid
  | address
  | mutex
  | watches
  | timeouts
  deriving DecidableEq, Repr

/-- The heap as far as the two functions touch it: the live blocks, and the frees of blocks
that were not live. -/
structure Heap where
  live : List Block
  badFrees : List Block
  deriving DecidableEq, Repr

namespace Heap

/-- A successful allocation. -/
def alloc (h : Heap) (b : Block) : Heap := { h with live := h.live ++ [b] }

/-- `dbus_free`, `_dbus_string_free` and the object frees: a live block is released, a free of
any other block is recorded. -/
def free (h : Heap) (b : Block) : Heap :=
  if b ∈ h.live then { h with live := h.live.erase b } else { h with badFrees := h.badFrees ++ [b] }

end Heap

/-- Whether each allocation of `_dbus_server_init_base` succeeds, in the order the code makes
them: `_dbus_string_init (&server->guid_hex)`, `_dbus_uuid_encode`, then in
`copy_address_with_guid_appended` `_dbus_string_init (&with_guid)`, the copy of the address, the
append of `",guid="`, the copy of the guid and `_dbus_string_steal_data`, then
`_dbus_mutex_new_at_location`, `_dbus_watch_list_new` and `_dbus_timeout_list_new`. -/
structure InitAllocs where
  guidHexInit : Bool
  uuidEncode : Bool
  withGuidInit : Bool
  addressCopy : Bool
  guidAppend : Bool
  guidCopy : Bool
  stealData : Bool
  mutexNew : Bool
  watchListNew : Bool
  timeoutListNew : Bool
  deriving Repr

/-- The five allocations of `copy_address_with_guid_appended` succeed. -/
def InitAllocs.copyOk (a : InitAllocs) : Bool :=
  a.withGuidInit && (a.addressCopy && a.guidAppend && a.guidCopy) && a.stealData

/-- Every allocation succeeds. -/
def InitAllocs.all (a : InitAllocs) : Bool :=
  a.guidHexInit && a.uuidEncode && a.copyOk && a.mutexNew && a.watchListNew && a.timeoutListNew

/-! ## 2. The two functions -/

/-- **`copy_address_with_guid_appended`** (lines 59-85): `address` followed by `,guid=` and the
hex guid, in a block of its own, or `NULL`.  `with_guid` is freed on every path.  A successful
`_dbus_string_steal_data` hands the buffer to `retval` and leaves `with_guid` an empty buffer,
which the final `_dbus_string_free` releases. -/
def copyAddressWithGuidAppended (a : InitAllocs) (address guidHex : String) (h : Heap) :
    Option String × Heap :=
  if a.withGuidInit then
    let h := h.alloc .withGuid
    if a.addressCopy && a.guidAppend && a.guidCopy then
      if a.stealData then (some (address ++ ",guid=" ++ guidHex), (h.alloc .address).free .withGuid)
      else (none, h.free .withGuid)
    else (none, h.free .withGuid)
  else (none, h)

/-- The base record while `_dbus_server_init_base` runs, with the one field of it the rest of
the model leaves out: whether `server->mutex` is non-`NULL`. -/
structure BaseRecord where
  srv : DBusServer
  mutex : Bool
  heap : Heap
  deriving DecidableEq, Repr

/-- A record as the backends allocate it, with `dbus_new0`: every field zero. -/
def DBusServer.zero : DBusServer :=
  ⟨0, false, none, none, none, NewConnection.null, none, [], none, none⟩

namespace BaseRecord

/-- The pointer to block `b` is set. -/
def owns (r : BaseRecord) : Block → Bool
  | .guidHex => r.srv.guidHex.isSome
  | .withGuid => false
  | .address => r.srv.address.isSome
  | .mutex => r.mutex
  | .watches => r.srv.watches.isSome
  | .timeouts => r.srv.timeouts.isSome

/-- Free block `b` and set its pointer to `NULL`. -/
def release (r : BaseRecord) : Block → BaseRecord
  | .guidHex => { r with srv := { r.srv with guidHex := none }, heap := r.heap.free .guidHex }
  | .withGuid => r
  | .address => { r with srv := { r.srv with address := none }, heap := r.heap.free .address }
  | .mutex => { r with mutex := false, heap := r.heap.free .mutex }
  | .watches => { r with srv := { r.srv with watches := none }, heap := r.heap.free .watches }
  | .timeouts => { r with srv := { r.srv with timeouts := none }, heap := r.heap.free .timeouts }

/-- An allocation that succeeded, stored in its field: `_dbus_string_init (&server->guid_hex)`,
`_dbus_mutex_new_at_location (&server->mutex)`, `server->watches = _dbus_watch_list_new ()`
and `server->timeouts = _dbus_timeout_list_new ()`.  The address and `with_guid` are allocated
by `copy_address_with_guid_appended`, not stored here. -/
def store (r : BaseRecord) : Block → BaseRecord
  | .guidHex => { r with srv := { r.srv with guidHex := some "" }, heap := r.heap.alloc .guidHex }
  | .mutex => { r with mutex := true, heap := r.heap.alloc .mutex }
  | .watches =>
    { r with srv := { r.srv with watches := some ⟨[], 0⟩ }, heap := r.heap.alloc .watches }
  | .timeouts =>
    { r with srv := { r.srv with timeouts := some ⟨[], 0⟩ }, heap := r.heap.alloc .timeouts }
  | .withGuid | .address => r

/-- `if (server->watches) { _dbus_watch_list_free (server->watches); server->watches = NULL; }`
and its twins; `_dbus_mutex_free_at_location` is a no-op on a `NULL` mutex. -/
def releaseIfSet (r : BaseRecord) (b : Block) : BaseRecord := if r.owns b then r.release b else r

end BaseRecord

/-- The code at `failed:` (lines 142-158): the mutex, the two registries and the address if they
are set, and the guid's buffer, which is always set by then. -/
def initBaseFailed (r : BaseRecord) : BaseRecord :=
  ((((r.releaseIfSet .mutex).releaseIfSet .watches).releaseIfSet .timeouts).releaseIfSet
    .address).release .guidHex

/-- **`_dbus_server_init_base`** (lines 96-160) on the record `r`, where `uuidHex` is the hex
form of the uuid that `_dbus_generate_uuid` draws.  Returns the result and the record. -/
def dbusServerInitBase (a : InitAllocs) (address uuidHex : String) (r : BaseRecord) :
    Bool × BaseRecord :=
  let r := { r with
    srv := { r.srv with refcount := 1, address := none, watches := none, timeouts := none } }
  if !a.guidHexInit then (false, r) else
  let r := r.store .guidHex
  if !a.uuidEncode then (false, initBaseFailed r) else
  let r := { r with srv := { r.srv with guidHex := some uuidHex } }
  let c := copyAddressWithGuidAppended a address uuidHex r.heap
  let r := { r with srv := { r.srv with address := c.1 }, heap := c.2 }
  if c.1.isNone then (false, initBaseFailed r) else
  if !a.mutexNew then (false, initBaseFailed { r with mutex := false }) else
  let r := r.store .mutex
  if !a.watchListNew then (false, initBaseFailed r) else
  let r := r.store .watches
  if !a.timeoutListNew then (false, initBaseFailed r) else
  let r := r.store .timeouts
  (true, { r with srv := { r.srv with slotList := [] } })

/-! ## 3. The ledger -/

namespace Heap

variable {h : Heap} {b c : Block}

@[simp] theorem alloc_badFrees : (h.alloc b).badFrees = h.badFrees := rfl

@[simp] theorem count_alloc :
    (h.alloc b).live.count c = h.live.count c + if b = c then 1 else 0 := by
  simp [alloc, List.count_append, List.count_singleton]

theorem free_of_mem (hb : b ∈ h.live) : h.free b = { h with live := h.live.erase b } := by
  simp [free, hb]

theorem count_free_of_mem (hb : b ∈ h.live) :
    (h.free b).live.count c = h.live.count c - if b = c then 1 else 0 := by
  simp [free_of_mem hb, List.count_erase, beq_iff_eq]

theorem badFrees_free_of_mem (hb : b ∈ h.live) : (h.free b).badFrees = h.badFrees := by
  simp [free_of_mem hb]

end Heap

namespace BaseRecord

variable {h₀ : Heap} {r r' : BaseRecord} {b c : Block}

/-- **The ledger**: the live blocks are those of `h₀` and those the record points to, and
nothing has been freed that was not live. -/
def Ledger (h₀ : Heap) (r : BaseRecord) : Prop :=
  (∀ b, r.heap.live.count b = h₀.live.count b + if r.owns b then 1 else 0) ∧
    r.heap.badFrees = h₀.badFrees

theorem owns_release : (r.release b).owns c = (r.owns c && c != b) := by
  cases b <;> cases c <;> simp [release, owns]

theorem owns_releaseIfSet : (r.releaseIfSet b).owns c = (r.owns c && c != b) := by
  unfold releaseIfSet
  split
  · exact owns_release
  · by_cases hc : c = b
    · subst hc; simp_all
    · simp [hc]

/-- Freeing a block the record points to, and clearing the pointer, keeps the ledger. -/
theorem Ledger.release (hl : r.Ledger h₀) (hb : r.owns b) : (r.release b).Ledger h₀ := by
  have hm : b ∈ r.heap.live := List.count_pos_iff.1 (by rw [hl.1 b, hb]; simp)
  have hh : (r.release b).heap = r.heap.free b := by
    cases b <;> first | rfl | simp [owns] at hb
  refine ⟨fun c => ?_, by rw [hh, Heap.badFrees_free_of_mem hm]; exact hl.2⟩
  rw [hh, Heap.count_free_of_mem hm, hl.1 c, owns_release]
  by_cases hc : c = b
  · subst hc; simp [hb]
  · simp [hc, Ne.symm hc]

theorem Ledger.releaseIfSet (hl : r.Ledger h₀) : (r.releaseIfSet b).Ledger h₀ := by
  unfold BaseRecord.releaseIfSet
  split
  · exact hl.release ‹_›
  · exact hl

/-- A successful allocation stored in a `NULL` pointer keeps the ledger. -/
theorem Ledger.acquire (hl : r.Ledger h₀) (hb : r.owns b = false) (hh : r'.heap = r.heap.alloc b)
    (ho : ∀ c, r'.owns c = (r.owns c || c == b)) : r'.Ledger h₀ := by
  refine ⟨fun c => ?_, by rw [hh]; exact hl.2⟩
  rw [hh, Heap.count_alloc, hl.1 c, ho c]
  by_cases hc : c = b
  · subst hc; simp [hb]
  · simp [hc, Ne.symm hc]

/-- With no pointer set, the live blocks are those of `h₀`. -/
theorem Ledger.perm (hl : r.Ledger h₀) (ho : ∀ b, r.owns b = false) : r.heap.live.Perm h₀.live :=
  List.perm_iff_count.2 fun b => by simp [hl.1 b, ho b]

/-- Storing an allocation in a `NULL` pointer keeps the ledger. -/
theorem Ledger.store (hl : r.Ledger h₀) (hb : r.owns b = false) : (r.store b).Ledger h₀ := by
  cases b
  case withGuid | address => exact hl
  all_goals exact hl.acquire hb rfl fun c => by cases c <;> simp [BaseRecord.store, owns]

end BaseRecord

/-- **`copy_address_with_guid_appended`**: the address with the guid when all five of its
allocations succeed, `NULL` otherwise.  The block it returns is the only trace it leaves on the
heap. -/
theorem copyAddressWithGuidAppended_spec (a : InitAllocs) (address guidHex : String) (h : Heap) :
    (copyAddressWithGuidAppended a address guidHex h).1 =
      (if a.copyOk then some (address ++ ",guid=" ++ guidHex) else none) ∧
    (copyAddressWithGuidAppended a address guidHex h).2.badFrees = h.badFrees ∧
    ∀ b, (copyAddressWithGuidAppended a address guidHex h).2.live.count b = h.live.count b +
      if (copyAddressWithGuidAppended a address guidHex h).1.isSome && b == .address then 1 else 0 := by
  unfold copyAddressWithGuidAppended InitAllocs.copyOk
  cases h1 : a.withGuidInit
  · simp
  -- `with_guid` is allocated now, and freed on every way out
  have hw : Block.withGuid ∈ (h.alloc .withGuid).live := by simp [Heap.alloc]
  cases h2 : (a.addressCopy && a.guidAppend && a.guidCopy) <;> cases h3 : a.stealData
  case true.true =>
    -- its buffer became the address
    have hw' : Block.withGuid ∈ ((h.alloc .withGuid).alloc .address).live := by simp [Heap.alloc]
    refine ⟨by simp, by simp [Heap.badFrees_free_of_mem hw'], fun b => ?_⟩
    simp only [↓reduceIte, Heap.count_free_of_mem hw']
    cases b <;> simp
  all_goals simp [Heap.badFrees_free_of_mem hw, Heap.count_free_of_mem hw]

/-- Storing the copied address in a `NULL` pointer keeps the ledger, whether the copy
succeeded or not. -/
theorem BaseRecord.Ledger.copy {h₀ : Heap} {r : BaseRecord} (hl : r.Ledger h₀)
    (ha : r.srv.address = none) (a : InitAllocs) (address g : String) :
    let c := copyAddressWithGuidAppended a address g r.heap
    ({ r with srv := { r.srv with address := c.1 }, heap := c.2 } : BaseRecord).Ledger h₀ := by
  obtain ⟨-, hb, hc⟩ := copyAddressWithGuidAppended_spec a address g r.heap
  refine ⟨fun b => ?_, hb.trans hl.2⟩
  rw [hc b, hl.1 b]
  cases b <;> simp [BaseRecord.owns, ha, Nat.add_assoc]

/-- **The cleanup frees exactly what the record points to**, once each: the heap is back to
`h₀` and every pointer is `NULL`. -/
theorem initBaseFailed_clean {h₀ : Heap} {r : BaseRecord} (hl : r.Ledger h₀)
    (hg : r.owns .guidHex) :
    (initBaseFailed r).heap.badFrees = h₀.badFrees ∧ (initBaseFailed r).heap.live.Perm h₀.live ∧
      (initBaseFailed r).mutex = false ∧ (initBaseFailed r).srv.address = none ∧
      (initBaseFailed r).srv.watches = none ∧ (initBaseFailed r).srv.timeouts = none := by
  have hl' : (initBaseFailed r).Ledger h₀ :=
    hl.releaseIfSet.releaseIfSet.releaseIfSet.releaseIfSet.release
      (by simp [BaseRecord.owns_releaseIfSet, hg])
  have ho : ∀ b, (initBaseFailed r).owns b = false := fun b => by
    simp only [initBaseFailed, BaseRecord.owns_release, BaseRecord.owns_releaseIfSet]
    cases b <;> simp [BaseRecord.owns]
  refine ⟨hl'.2, hl'.perm ho, ho .mutex, ?_, ?_, ?_⟩
  · simpa [BaseRecord.owns] using ho .address
  · simpa [BaseRecord.owns] using ho .watches
  · simpa [BaseRecord.owns] using ho .timeouts

/-! ## 4. What `_dbus_server_init_base` leaves -/

/-- **No leak and no double free.**  On a record whose mutex field is `NULL`, the function
succeeds exactly when every allocation does.  It frees no block that is not live.  On success
the heap holds five blocks more, all of them the record's, and the record is the new server; on
failure the heap is as it was, and the mutex, the address and the two registries are `NULL`. -/
theorem dbusServerInitBase_ledger (a : InitAllocs) (address uuidHex : String) (r : BaseRecord)
    (hm : r.mutex = false) :
    let res := dbusServerInitBase a address uuidHex r
    res.1 = a.all ∧ res.2.heap.badFrees = r.heap.badFrees ∧
      if res.1 then
        res.2.heap.live.Perm (r.heap.live ++ [.guidHex, .address, .mutex, .watches, .timeouts]) ∧
          res.2.mutex = true ∧
          res.2.srv = { r.srv with
            refcount := 1, guidHex := some uuidHex, address := some (address ++ ",guid=" ++ uuidHex)
            watches := some ⟨[], 0⟩, timeouts := some ⟨[], 0⟩, slotList := [] }
      else
        res.2.heap.live.Perm r.heap.live ∧ res.2.mutex = false ∧ res.2.srv.address = none ∧
          res.2.srv.watches = none ∧ res.2.srv.timeouts = none := by
  obtain ⟨srv, m, heap⟩ := r
  obtain rfl : m = false := hm
  simp only [dbusServerInitBase, BaseRecord.store]
  cases hg : a.guidHexInit
  · simp [InitAllocs.all, hg]
  -- from here on the record points to the guid's buffer, and to nothing else
  have l₂ : BaseRecord.Ledger heap ⟨{ srv with
      refcount := 1, address := none, watches := none, timeouts := none, guidHex := some uuidHex },
      false, heap.alloc .guidHex⟩ := ⟨fun b => by cases b <;> simp [BaseRecord.owns], rfl⟩
  cases hu : a.uuidEncode
  · exact ⟨by simp [InitAllocs.all, hu], initBaseFailed_clean ⟨l₂.1, rfl⟩ rfl⟩
  have l₃ := l₂.copy rfl a address uuidHex
  have hc1 := (copyAddressWithGuidAppended_spec a address uuidHex (heap.alloc .guidHex)).1
  cases hc : a.copyOk
  · rw [hc, if_neg Bool.false_ne_true] at hc1
    simp only [hc1, Bool.not_true, Bool.false_eq_true, ↓reduceIte, Option.isNone_none]
    simp only [hc1] at l₃
    exact ⟨by simp [InitAllocs.all, hc], initBaseFailed_clean l₃ rfl⟩
  rw [hc, if_pos rfl] at hc1
  simp only [hc1, Bool.not_true, Bool.false_eq_true, ↓reduceIte, Option.isNone_some]
  simp only [hc1] at l₃
  have l₄ := l₃.store (b := .mutex) rfl
  have l₅ := l₄.store (b := .watches) rfl
  have l₆ := l₅.store (b := .timeouts) rfl
  cases hm : a.mutexNew
  · exact ⟨by simp [InitAllocs.all, hm], initBaseFailed_clean l₃ rfl⟩
  cases hw : a.watchListNew
  · exact ⟨by simp [InitAllocs.all, hm, hw], initBaseFailed_clean l₄ rfl⟩
  cases ht : a.timeoutListNew
  · exact ⟨by simp [InitAllocs.all, hm, hw, ht], initBaseFailed_clean l₅ rfl⟩
  simp only [Bool.not_true, Bool.false_eq_true, ↓reduceIte]
  refine ⟨by simp [InitAllocs.all, hg, hu, hc, hm, hw, ht], l₆.2, ?_, trivial, trivial⟩
  refine List.perm_iff_count.2 fun b => (l₆.1 b).trans ?_
  cases b <;> simp [BaseRecord.store, BaseRecord.owns, List.count_cons]
/-- The theorem on a zeroed record whose watch list cannot be allocated. -/
theorem dbusServerInitBase_ledger_no_watches :
    (⟨DBusServer.zero, false, ⟨[], []⟩⟩ : BaseRecord).mutex = false ∧
      let res := dbusServerInitBase ⟨true, true, true, true, true, true, true, true, false, true⟩
        "unix:tmpdir=/tmp" "0123" ⟨DBusServer.zero, false, ⟨[], []⟩⟩
      res.1 = false ∧ res.2.heap.badFrees = [] ∧ res.2.heap.live.Perm [] ∧ res.2.mutex = false ∧
        res.2.srv.address = none ∧ res.2.srv.watches = none ∧ res.2.srv.timeouts = none :=
  ⟨rfl, dbusServerInitBase_ledger _ _ _ _ rfl⟩

/-- **The cleanup relies on a zeroed record.**  `_dbus_mutex_free_at_location` at `failed:` frees
whatever `server->mutex` holds.  On a record whose mutex field is set on entry to a mutex that is
not live, a failed `_dbus_uuid_encode` frees that mutex, which the function never created. -/
theorem dbusServerInitBase_stale_mutex (a : InitAllocs) (address uuidHex : String)
    (r : BaseRecord) (hm : r.mutex = true) (hl : Block.mutex ∉ r.heap.live)
    (hg : a.guidHexInit = true) (hu : a.uuidEncode = false) :
    (dbusServerInitBase a address uuidHex r).2.heap.badFrees = r.heap.badFrees ++ [.mutex] := by
  simp [dbusServerInitBase, hg, hu, initBaseFailed, BaseRecord.releaseIfSet, BaseRecord.release,
    BaseRecord.owns, BaseRecord.store, Heap.free, Heap.alloc, hm, hl]

/-! ## 5. The record it builds starts the thread model -/

/-- **A server that `_dbus_server_init_base` built is a valid start of the thread model.**  On a
zeroed record, when every allocation succeeds, the function returns `TRUE`, and the record, with
the one reference the caller holds, is an initial state of `Threads`: connected, unlocked, with
empty registries and no callback. -/
theorem dbusServerInitBase_init (a : InitAllocs) (address uuidHex : String) (h : Heap)
    (ha : a.all = true) :
    let res := dbusServerInitBase a address uuidHex ⟨DBusServer.zero, false, h⟩
    res.1 = true ∧ (⟨res.2.srv, Trace.empty, fun _ => ⟨[], 1⟩⟩ : Sys 1).Init := by
  simp only [InitAllocs.all, Bool.and_eq_true] at ha
  obtain ⟨⟨⟨⟨⟨hg, hu⟩, hc⟩, hm⟩, hw⟩, ht⟩ := ha
  have hc1 := (copyAddressWithGuidAppended_spec a address uuidHex (Heap.alloc h .guidHex)).1
  rw [hc, if_pos rfl] at hc1
  simp only [dbusServerInitBase, BaseRecord.store, hg, hu, hc1, hm, hw, ht, Bool.not_true,
    Bool.false_eq_true, ↓reduceIte, Option.isNone_some]
  refine ⟨trivial, ⟨fun _ => rfl, ?_, ?_, rfl, rfl, rfl, rfl, rfl, rfl⟩⟩ <;> simp [Sys.heldTotal]

end DBus
