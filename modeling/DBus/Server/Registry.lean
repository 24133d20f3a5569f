import DBus.Server.Lifetime
/-
# The watch and timeout registries

`server->watches` and `server->timeouts` each point to one `DBusWatchList` (`DBusTimeoutList`).
`protected_change_watch` and `dbus_server_set_watch_functions` cannot call the list with the lock
held, so they take the pointer out of the record, set the field to `NULL`, unlock, call, lock,
and put it back.  A call that finds the field `NULL` does nothing: `protected_change_*` returns
`FALSE`, and `dbus_server_set_*_functions` warns and returns `FALSE`.

So the list is always in exactly one place: in the field, or in the one frame that took it out
(`Sys.RegInv.owned`); and every copy anyone holds IS the initial list after the list operations
that ran, in the order they ran (`Sys.RegInv.contents`), so nothing ever replaces it
(`registry_in_one_place`).  A call that found the list returns what the outcome of its own list
operation gives, the last one logged on that registry (`Sys.RegInv.returned`).  The calls that
found the field `NULL` ran none: `_dbus_server_add_*` passes their `FALSE` on, but
`_dbus_server_remove_*` and `_dbus_server_toggle_*` return `void`, so what their caller learns
is nothing in either case (`registry_call_reports`), and a remove lost that way goes unnoticed
(`remove_lost_while_detached`).

Both facts hold until `_dbus_server_finalize_base` frees the lists.  When it does, each list is
in its field, or out in a call of `dbus_server_set_*_functions`, never in `protected_change_*`,
whose temporary reference keeps the server alive (`registries_at_finalize`).  The first function
takes no reference of its own, so a thread that releases its last reference from inside
`_dbus_watch_list_set_functions` gets the server finalized under it, with the field `NULL`
(`finalize_inside_set_watch_functions`).
-/

namespace DBus

/-! ## 1. Who holds a registry, and what it holds -/

/-- The registry of kind `k` that a frame has taken out of the record: `protected_change_*` in
or back from its list operation, `dbus_server_set_*_functions` in or back from
`_dbus_watch_list_set_functions`. -/
def Frame.holds (k : ListKind) : Frame → Option DBusWatchList
  | .change k' _ (.callout l) | .change k' _ (.relock l _)
  | .setFunctions k' _ (.callout l) | .setFunctions k' _ (.relock l _) =>
    if k' = k then some l else none
  | _ => none

/-- The registries of kind `k` a stack holds. -/
def holdings (k : ListKind) (st : List Frame) : List DBusWatchList := st.filterMap (Frame.holds k)

@[simp] theorem holdings_nil (k : ListKind) : holdings k [] = [] := rfl

@[simp] theorem holdings_cons (k : ListKind) (f : Frame) (st : List Frame) :
    holdings k (f :: st) = (f.holds k).toList ++ holdings k st := by
  cases h : f.holds k <;> simp [holdings, List.filterMap_cons, h]

/-- A call starts in a frame that holds no registry. -/
theorem Op.frame_holds {op : Op} {f : Frame} (h : op.frame = some f) (k : ListKind) :
    f.holds k = none := by
  cases op <;> simp only [Op.frame, Option.some.injEq, reduceCtorEq] at h <;> subst h <;> rfl

/-- A list operation that ran, applied to a list: the change of `protected_change_*`, or the
functions `_dbus_watch_list_set_functions` installs. -/
def ListOpRecord.apply (r : ListOpRecord) (l : DBusWatchList) : DBusWatchList :=
  match r.call with
  | .change c => l.apply c r.ok
  | .setFunctions fns => l.setFunctions fns r.ok

/-- The registry of kind `k`: the list `l₀` after the list operations that ran on it, in
order. -/
def replay (k : ListKind) (l₀ : DBusWatchList) (ops : List ListOpRecord) : DBusWatchList :=
  ops.foldl (fun l r => if r.kind = k then r.apply l else l) l₀

@[simp] theorem replay_nil (k : ListKind) (l₀ : DBusWatchList) : replay k l₀ [] = l₀ := rfl

@[simp] theorem replay_append_single (k : ListKind) (l₀ : DBusWatchList) (ops : List ListOpRecord)
    (r : ListOpRecord) : replay k l₀ (ops ++ [r]) =
      if r.kind = k then r.apply (replay k l₀ ops) else replay k l₀ ops := by
  simp [replay, List.foldl_append]

/-- Writing back what the field holds changes nothing. -/
@[simp] theorem DBusServer.setList_list (s : DBusServer) (k : ListKind) :
    s.setList k (s.list k) = s := by
  cases k <;> rfl

/-- The frame is back from its list operation on the registry of kind `k`: the call, and the
value it is about to return. -/
def Frame.returning (k : ListKind) : Frame → Option (RegistryCall × Bool)
  | .change k' c (.relock _ v) => if k' = k then some (.change c, v) else none
  | .setFunctions k' fns (.relock _ v) => if k' = k then some (.setFunctions fns, v) else none
  | _ => none

/-- The calls on the registry of kind `k` that a stack has back from their list operation, with
the values they are about to return. -/
def returnings (k : ListKind) (st : List Frame) : List (RegistryCall × Bool) :=
  st.filterMap (Frame.returning k)

@[simp] theorem returnings_nil (k : ListKind) : returnings k [] = [] := rfl

@[simp] theorem returnings_cons (k : ListKind) (f : Frame) (st : List Frame) :
    returnings k (f :: st) = (f.returning k).toList ++ returnings k st := by
  cases h : f.returning k <;> simp [returnings, List.filterMap_cons, h]

/-- A frame back from its list operation still holds the list. -/
theorem Frame.holds_of_returning {f : Frame} {k : ListKind} (h : (f.returning k).isSome) :
    (f.holds k).isSome := by
  unfold Frame.returning at h
  split at h
  case h_3 => simp at h
  all_goals unfold Frame.holds; split_ifs at h ⊢ <;> simp_all

/-- A stack that holds no registry of kind `k` has no call back from a list operation on it. -/
theorem returnings_eq_nil {k : ListKind} {st : List Frame} (h : holdings k st = []) :
    returnings k st = [] :=
  List.filterMap_eq_nil_iff.2 fun f hf => Option.not_isSome_iff_eq_none.1 fun hr => by
    simpa [List.filterMap_eq_nil_iff.1 h f hf] using Frame.holds_of_returning hr

/-- A call starts in a frame that is not back from a list operation. -/
theorem Op.frame_returning {op : Op} {f : Frame} (h : op.frame = some f) (k : ListKind) :
    f.returning k = none := by
  cases op <;> simp only [Op.frame, Option.some.injEq, reduceCtorEq] at h <;> subst h <;> rfl

/-- The value a registry call returns when its list operation had outcome `ok`: the `retval` of
`protected_change_*`, the `result` of `dbus_server_set_*_functions`. -/
def RegistryCall.retval : RegistryCall → Bool → Bool
  | .change c, ok => c.retval ok
  | .setFunctions _, ok => ok

/-- What the caller should learn of a list operation with outcome `ok` (`FALSE` when none ran):
the outcome itself from `_dbus_server_add_*` and from `dbus_server_set_*_functions`, nothing from
the `void` remove and toggle. -/
def RegistryCall.outcomeReport : RegistryCall → Bool → Option Bool
  | .change (.add _), ok | .setFunctions _, ok => some ok
  | .change _, _ => none

theorem RegistryCall.outcomeReport_retval (c : RegistryCall) (ok : Bool) :
    c.outcomeReport (c.retval ok) = c.outcomeReport ok := by
  rcases c with c | _ <;> [cases c; skip] <;> rfl

/-- The caller of a registry call is told the value it returned, unless the call is a `void`
remove or toggle. -/
theorem ReturnRecord.reported_eq (r : ReturnRecord) : r.reported = r.call.outcomeReport r.value := by
  rcases r with ⟨_, _, c | _, _, _⟩ <;> [cases c; skip] <;> rfl

/-- The last list operation that ran on the registry of kind `k`. -/
def lastOp (k : ListKind) (ops : List ListOpRecord) : Option ListOpRecord :=
  (ops.filter (·.kind = k)).getLast?

@[simp] theorem lastOp_append_single (k : ListKind) (ops : List ListOpRecord) (r : ListOpRecord) :
    lastOp k (ops ++ [r]) = if r.kind = k then some r else lastOp k ops := by
  by_cases h : r.kind = k <;> simp [lastOp, List.filter_append, h]

/-! ## 2. What one thread's step does to a registry -/

section Effects

variable {allowed : Op → Prop} {t H : Nat} {s s' : DBusServer} {tr tr' : Trace}
  {th th' : Thread} {k : ListKind}

@[simp] theorem holdings_finalizeIf {last : Bool} {tr : Trace} {st : List Frame} :
    holdings k (finalizeIf t last s tr st).2 = holdings k st := by
  cases last <;> simp [Frame.holds]

@[simp] theorem returnings_finalizeIf {last : Bool} {tr : Trace} {st : List Frame} :
    returnings k (finalizeIf t last s tr st).2 = returnings k st := by
  cases last <;> simp [Frame.returning]

/-- **What one step does to the registry of kind `k`**: nothing; or it takes the list out of the
field; or it puts the list it holds back; or it runs a list operation on the list it holds and
logs it; or `_dbus_server_finalize_base` frees the field. -/
theorem TStep.registry_cases (h : TStep allowed t H s tr th s' tr' th') (k : ListKind) :
    (s'.list k = s.list k ∧ holdings k th'.stack = holdings k th.stack ∧
      ∀ l₀, replay k l₀ tr'.listOps = replay k l₀ tr.listOps) ∨
    (∃ l, s.list k = some l ∧ s'.list k = none ∧
      holdings k th'.stack = l :: holdings k th.stack ∧ tr'.listOps = tr.listOps) ∨
    (∃ l, s'.list k = some l ∧ holdings k th.stack = l :: holdings k th'.stack ∧
      tr'.listOps = tr.listOps) ∨
    (∃ l rest, ∃ r : ListOpRecord, r.kind = k ∧ s'.list k = s.list k ∧
      holdings k th.stack = l :: rest ∧ holdings k th'.stack = r.apply l :: rest ∧
      tr'.listOps = tr.listOps ++ [r]) ∨
    (tr'.finalized = true ∧ s'.list k = none ∧ holdings k th'.stack = holdings k th.stack ∧
      tr'.listOps = tr.listOps) := by
  cases h
  case call _ hf _ _ => exact .inl ⟨rfl, by simp [Op.frame_holds hf], fun _ => rfl⟩
  case finalizeRest => exact .inr (.inr (.inr (.inr ⟨rfl, by simp [Frame.holds]⟩)))
  case changeAttached k0 c l hl =>
    by_cases hk : k0 = k
    · subst hk; exact .inr (.inl ⟨l, hl, by simp [Frame.holds]⟩)
    · exact .inl ⟨by simp [hk], by simp [Frame.holds, hk], fun _ => by simp⟩
  case changeDetached hl =>
    exact .inl ⟨by simp [protectedChangeEntry_of_none hl], by simp [Frame.holds], fun _ => by simp⟩
  case changeReturn st _ k0 c l ok =>
    by_cases hk : k0 = k
    · subst hk
      exact .inr (.inr (.inr (.inl ⟨l, holdings k0 st, ⟨k0, .change c, ok⟩, rfl, rfl,
        by simp [Frame.holds], by simp [Frame.holds, ListOpRecord.apply], rfl⟩)))
    · exact .inl ⟨rfl, by simp [Frame.holds, hk], fun _ => by simp [hk]⟩
  case changeRelock k0 c l r _ =>
    by_cases hk : k0 = k
    · subst hk; exact .inr (.inr (.inl ⟨l, by simp [Frame.holds]⟩))
    · exact .inl ⟨by simp [hk], by simp [Frame.holds, hk], fun _ => by simp⟩
  case setFunctionsAttached k0 fns l _ hl =>
    by_cases hk : k0 = k
    · subst hk; exact .inr (.inl ⟨l, hl, by simp [Frame.holds]⟩)
    · exact .inl ⟨by simp [hk], by simp [Frame.holds, hk], fun _ => rfl⟩
  case setFunctionsDetached hk =>
    exact .inl ⟨by simp; rintro rfl; exact hk.symm, by simp [Frame.holds], fun _ => rfl⟩
  case setFunctionsReturn st _ k0 fns l ok =>
    by_cases hk : k0 = k
    · subst hk
      exact .inr (.inr (.inr (.inl ⟨l, holdings k0 st, ⟨k0, .setFunctions fns, ok⟩, rfl, rfl,
        by simp [Frame.holds], by simp [Frame.holds, ListOpRecord.apply], rfl⟩)))
    · exact .inl ⟨rfl, by simp [Frame.holds, hk], fun _ => by simp [hk]⟩
  case setFunctionsRelock k0 fns l r _ =>
    by_cases hk : k0 = k
    · subst hk; exact .inr (.inr (.inl ⟨l, by simp [Frame.holds]⟩))
    · exact .inl ⟨by simp [hk], by simp [Frame.holds, hk], fun _ => rfl⟩
  all_goals exact .inl ⟨by simp, by simp [Frame.holds], fun _ => by simp⟩

/-- The places the registry of kind `k` is in, as seen by one thread: the field, and the thread's
own frames. -/
def places (k : ListKind) (s : DBusServer) (st : List Frame) : Nat :=
  (if (s.list k).isSome then 1 else 0) + (holdings k st).length

/-- A thread holding the registry sees no other copy of it. -/
theorem places_of_holdings {st : List Frame} {l : DBusWatchList} {rest : List DBusWatchList}
    (hh : holdings k st = l :: rest) (h : places k s st ≤ 1) : s.list k = none ∧ rest = [] := by
  rw [places, hh, List.length_cons] at h
  cases hs : s.list k
  · exact ⟨rfl, List.eq_nil_of_length_eq_zero (by omega)⟩
  · simp [hs] at h

/-- **A step moves the registry, it never copies or loses it**, until
`_dbus_server_finalize_base` frees it.  The thread takes the list out only while the field holds
it, and puts back only the list it holds while the field is `NULL`. -/
theorem TStep.places_eq (h : TStep allowed t H s tr th s' tr' th')
    (hk : places k s th.stack ≤ 1) :
    places k s' th'.stack = places k s th.stack ∨ tr'.finalized = true := by
  rcases h.registry_cases k with ⟨hs, hh, -⟩ | ⟨l, hs, hs', hh, -⟩ | ⟨l, hs', hh, -⟩ |
    ⟨l, rest, r, -, hs, hh, hh', -⟩ | ⟨hf, -⟩
  · exact .inl (by simp [places, hs, hh])
  · exact .inl (by simp [places, hs, hs', hh]; omega)
  · obtain ⟨hn, he⟩ := places_of_holdings hh hk
    exact .inl (by simp [places, hs', hn, hh, he])
  · exact .inl (by simp [places, hs, hh, hh'])
  · exact .inr hf

/-- The copies of the registry of kind `k` one thread can see. -/
def copies (k : ListKind) (s : DBusServer) (st : List Frame) : List DBusWatchList :=
  (s.list k).toList ++ holdings k st

/-- **A step changes the registry only by the list operation it logs.**  If every copy the
thread sees is `l₀` after the logged operations, so is every copy after the step. -/
theorem TStep.copies_eq {l₀ : DBusWatchList} (h : TStep allowed t H s tr th s' tr' th')
    (hk : places k s th.stack ≤ 1) (hi : ∀ l ∈ copies k s th.stack, l = replay k l₀ tr.listOps) :
    ∀ l ∈ copies k s' th'.stack, l = replay k l₀ tr'.listOps := by
  simp only [copies, List.mem_append] at hi ⊢
  rcases h.registry_cases k with ⟨hs, hh, hr⟩ | ⟨l, hs, hs', hh, hc⟩ | ⟨l, hs', hh, hc⟩ |
    ⟨l, rest, r, hrk, hs, hh, hh', hc⟩ | ⟨-, hs', hh, hc⟩
  · rw [hs, hh, hr]; exact hi
  · rw [hs', hh, hc]; simpa [hs, or_comm] using hi
  · obtain ⟨hn, he⟩ := places_of_holdings hh hk
    rw [hs', hc, he]; simpa [hn, hh, he] using hi
  · obtain ⟨hn, rfl⟩ := places_of_holdings hh hk
    have hl := hi l (by simp [hh])
    rw [hs, hh', hc]
    simp [hn, hl, hrk]
  · rw [hs', hh, hc]; simpa using fun l h => hi l (.inr h)

/-- Only the thread holding the registry changes what the logged operations made of it. -/
theorem TStep.replay_eq {l₀ : DBusWatchList} (h : TStep allowed t H s tr th s' tr' th') :
    replay k l₀ tr'.listOps = replay k l₀ tr.listOps ∨ holdings k th.stack ≠ [] := by
  rcases h.registry_cases k with ⟨-, -, hr⟩ | ⟨-, -, -, -, hc⟩ | ⟨-, -, -, hc⟩ |
    ⟨_, _, _, -, -, hh, -⟩ | ⟨-, -, -, hc⟩
  · exact .inl (hr l₀)
  · exact .inl (by rw [hc])
  · exact .inl (by rw [hc])
  · exact .inr (by simp [hh])
  · exact .inl (by rw [hc])

/-- **Which calls are back from a list operation.**  A step either keeps the last operation on
the registry of kind `k` and brings no call back from one, or it is the return of the list
operation of the frame that holds the list: the operation is logged, and the frame will return
the value its outcome gives. -/
theorem TStep.returnings_cases (h : TStep allowed t H s tr th s' tr' th') (k : ListKind) :
    (lastOp k tr'.listOps = lastOp k tr.listOps ∧
      ∀ p ∈ returnings k th'.stack, p ∈ returnings k th.stack) ∨
    ∃ (r : ListOpRecord) (l : DBusWatchList) (rest : List Frame), r.kind = k ∧
      tr'.listOps = tr.listOps ++ [r] ∧ holdings k th.stack = l :: holdings k rest ∧
      returnings k th'.stack = (r.call, r.call.retval r.ok) :: returnings k rest := by
  cases h
  case call _ hf _ _ => exact .inl ⟨rfl, by simp [Op.frame_returning hf]⟩
  case changeReturn st _ k0 c l ok =>
    by_cases hk : k0 = k
    · subst hk
      exact .inr ⟨⟨k0, .change c, ok⟩, l, st, rfl, rfl, by simp [Frame.holds],
        by simp [Frame.returning, RegistryCall.retval]⟩
    · exact .inl ⟨by simp [hk], by simp [Frame.returning, hk]⟩
  case setFunctionsReturn st _ k0 fns l ok =>
    by_cases hk : k0 = k
    · subst hk
      exact .inr ⟨⟨k0, .setFunctions fns, ok⟩, l, st, rfl, rfl, by simp [Frame.holds],
        by simp [Frame.returning, RegistryCall.retval]⟩
    · exact .inl ⟨by simp [hk], by simp [Frame.returning, hk]⟩
  case unref | disconnectUnref | changeRelock =>
    exact .inl ⟨by cases lastUnref s <;> rfl, fun p hp => by simp_all⟩
  all_goals exact .inl ⟨rfl, fun p hp => by simp_all [Frame.returning]⟩

/-- **What a registry call returns.**  A step records at most one return, and logs no list
operation with it.  A call that found its registry `NULL` returns `FALSE` on the spot and leaves
the server as it was; one that found it returns the value its frame carries back from the list
operation. -/
theorem TStep.returns_cases (h : TStep allowed t H s tr th s' tr' th') :
    tr'.returns = tr.returns ∨ ∃ r, tr'.returns = tr.returns ++ [r] ∧ tr'.listOps = tr.listOps ∧
      (r.found = false → r.value = false ∧ s' = s) ∧
      (r.found = true → (r.call, r.value) ∈ returnings r.kind th.stack) := by
  cases h
  case changeDetached hl =>
    exact .inr ⟨_, rfl, rfl, fun _ => ⟨rfl, by simp [protectedChangeEntry_of_none hl]⟩, nofun⟩
  case changeRelock k c l r _ =>
    exact .inr ⟨⟨t, k, .change c, true, r⟩, by cases lastUnref s <;> simp,
      by cases lastUnref s <;> simp, nofun, fun _ => by simp [Frame.returning]⟩
  case setFunctionsDetached k _ _ hk =>
    exact .inr ⟨_, rfl, rfl, fun _ => ⟨rfl, by rw [setFunctionsLocked_eq, ← hk]; simp⟩, nofun⟩
  case setFunctionsRelock k fns l r _ =>
    exact .inr ⟨⟨t, k, .setFunctions fns, true, r⟩, rfl, rfl, nofun,
      fun _ => by simp [Frame.returning]⟩
  case unref | disconnectUnref => exact .inl (by cases lastUnref s <;> rfl)
  all_goals exact .inl rfl

end Effects

/-! ## 3. The registry invariant -/

namespace Sys

variable {n : Nat}

/-- The places the registry of kind `k` is in: the field, and every frame that took it out. -/
def registryPlaces (σ : Sys n) (k : ListKind) : Nat :=
  (if (σ.srv.list k).isSome then 1 else 0) + ∑ i, (holdings k (σ.threads i).stack).length

/-- The registry of kind `k` the server starts with. -/
def initialList (σ : Sys n) (k : ListKind) : DBusWatchList := (σ.srv.list k).getD ⟨[], 0⟩

/-- **The registries**, for the initial lists `l₀`, until `_dbus_server_finalize_base` frees
them: each is in exactly one place; every copy a thread can see is the initial list after the
logged list operations; and a call back from its list operation is about to return the value
the outcome of the last logged operation on that registry gives, which is its own. -/
structure RegInv (l₀ : ListKind → DBusWatchList) (σ : Sys n) : Prop where
  owned : σ.tr.finalized = false → ∀ k, σ.registryPlaces k = 1
  contents : σ.tr.finalized = false → ∀ k i, ∀ l ∈ copies k σ.srv (σ.threads i).stack,
    l = replay k (l₀ k) σ.tr.listOps
  returned : σ.tr.finalized = false → ∀ k i, ∀ p ∈ returnings k (σ.threads i).stack,
    ∃ ok, lastOp k σ.tr.listOps = some ⟨k, p.1, ok⟩ ∧ p.2 = p.1.retval ok

theorem Init.regInv {σ : Sys n} (h : σ.Init) : σ.RegInv σ.initialList where
  owned _ k := by
    have : (σ.srv.list k).isSome := by cases k <;> [exact h.watches; exact h.timeouts]
    simp [registryPlaces, this, h.idle]
  contents _ k i l hl := by
    have : (σ.srv.list k).isSome := by cases k <;> [exact h.watches; exact h.timeouts]
    obtain ⟨l', hl'⟩ := Option.isSome_iff_exists.1 this
    simp [copies, h.idle, hl'] at hl
    simp [initialList, hl', hl, h.trace, Trace.empty]
  returned _ k i := by simp [h.idle]

/-- Thread `i` sees at most one copy of a registry that is in one place. -/
theorem places_le_one {σ : Sys n} {k : ListKind} (h : σ.registryPlaces k = 1) (i : Fin n) :
    places k σ.srv (σ.threads i).stack ≤ 1 := by
  have := le_sum (fun th => (holdings k th.stack).length) σ.threads i
  simp only [registryPlaces, places] at h this ⊢
  omega

/-- While thread `i` holds the registry, no other thread does. -/
theorem holdings_other {σ : Sys n} {k : ListKind} (h : σ.registryPlaces k = 1) {i j : Fin n}
    (hij : i ≠ j) (hi : holdings k (σ.threads i).stack ≠ []) :
    holdings k (σ.threads j).stack = [] := by
  have hs := add_le_sum (fun th => (holdings k th.stack).length) σ.threads hij
  have := List.length_pos.2 hi
  simp only [registryPlaces] at h hs
  exact List.eq_nil_of_length_eq_zero (by split at h <;> omega)

section ThreadStep

variable {allowed : Op → Prop} {σ : Sys n} {i : Fin n} {srv' : DBusServer} {tr' : Trace}
  {th' : Thread} {l₀ : ListKind → DBusWatchList}

theorem RegInv.step_thread (hR : σ.RegInv l₀)
    (h : TStep allowed i.val σ.heldTotal σ.srv σ.tr (σ.threads i) srv' tr' th') :
    RegInv l₀ ⟨srv', tr', Function.update σ.threads i th'⟩ := by
  have hf : tr'.finalized = false → σ.tr.finalized = false := fun hf => by
    cases e : σ.tr.finalized
    · rfl
    · rw [h.finalized_mono e] at hf; cases hf
  constructor
  · intro hf' k
    have hk := places_le_one (hR.owned (hf hf') k) i
    have hsum := sum_update (fun th => (holdings k th.stack).length) σ.threads i th'
    have h1 := hR.owned (hf hf') k
    rcases h.places_eq hk with he | he
    · simp only [registryPlaces, places] at h1 he hsum ⊢
      omega
    · rw [he] at hf'; cases hf'
  · intro hf' k j l hl
    have hown := hR.owned (hf hf') k
    have hi := h.copies_eq (places_le_one hown i) (hR.contents (hf hf') k i)
    by_cases hj : j = i
    · subst hj; exact hi l (by simpa using hl)
    · simp only [Function.update_noteq hj, copies, List.mem_append] at hl
      rcases hl with hl | hl
      · exact hi l (List.mem_append_left _ hl)
      · rcases (h.replay_eq : replay k (l₀ k) tr'.listOps = _ ∨ _) with he | he
        · rw [he]; exact hR.contents (hf hf') k j l (List.mem_append_right _ hl)
        · rw [holdings_other hown (Ne.symm hj) he] at hl; cases hl
  · intro hf' k j p hp
    have hown := hR.owned (hf hf') k
    rcases h.returnings_cases k with ⟨hl, hsub⟩ | ⟨⟨rk, rc, rok⟩, l, rest, rfl, hc, hh, hret⟩
    · rw [hl]
      by_cases hj : j = i
      · subst hj; simp only [Function.update_same] at hp; exact hR.returned (hf hf') k j p (hsub p hp)
      · simp only [Function.update_noteq hj] at hp; exact hR.returned (hf hf') k j p hp
    -- the step logged the list operation of the frame holding the list: no other call is back
    · have hrest := (places_of_holdings hh (places_le_one hown i)).2
      by_cases hj : j = i
      · subst hj
        simp only [Function.update_same, hret, returnings_eq_nil hrest, List.mem_singleton] at hp
        subst hp
        exact ⟨rok, by simp [hc], rfl⟩
      · simp only [Function.update_noteq hj,
          returnings_eq_nil (holdings_other hown (Ne.symm hj) (by simp [hh]))] at hp
        cases hp

end ThreadStep

theorem RegInv.step_give {σ : Sys n} {i j : Fin n} {l₀ : ListKind → DBusWatchList}
    (hR : σ.RegInv l₀) :
    RegInv l₀ ⟨σ.srv, σ.tr, Function.update (Function.update σ.threads i
      { σ.threads i with held := (σ.threads i).held - 1 }) j
      { σ.threads j with held := (σ.threads j).held + 1 }⟩ where
  owned hf k := by simpa only [registryPlaces, give_stack] using hR.owned hf k
  contents hf k m := by simpa only [give_stack] using hR.contents hf k m
  returned hf k m := by simpa only [give_stack] using hR.returned hf k m

end Sys

/-- **In every run the registries keep their invariant.** -/
theorem Reach.regInv {allowed : Op → Prop} {n : Nat} {σ₀ σ : Sys n} (h : Reach allowed σ₀ σ) :
    σ.RegInv σ₀.initialList := by
  induction h with
  | init h => exact h.regInv
  | step _ hs ih =>
    cases hs with
    | thread i h => exact ih.step_thread h
    | give i j _ _ _ => exact ih.step_give

/-- A run starts from an initial state. -/
theorem Reach.init_of {allowed : Op → Prop} {n : Nat} {σ₀ σ : Sys n} (h : Reach allowed σ₀ σ) :
    σ₀.Init := by
  induction h with
  | init h => exact h
  | step _ _ ih => exact ih

/-! ## 4. The registries until `_dbus_server_finalize_base` -/

/-- The frame is running a list operation on the registry of kind `k`: the call-out of
`protected_change_*` or of `dbus_server_set_*_functions`. -/
def Frame.inListOp (k : ListKind) : Frame → Bool
  | .change k' _ (.callout _) | .setFunctions k' _ (.callout _) => k' = k
  | _ => false

/-- A frame running a list operation holds the list. -/
theorem countP_inListOp_le (k : ListKind) (st : List Frame) :
    st.countP (Frame.inListOp k) ≤ (holdings k st).length := by
  rw [holdings, List.length_filterMap_eq_countP]
  refine List.countP_mono_left fun f _ h => ?_
  unfold Frame.inListOp at h
  split at h
  case h_3 => simp at h
  all_goals simp_all [Frame.holds]

/-- **Each registry is in exactly one place, and it is the original list.**  In every state of
every run, until `_dbus_server_finalize_base` has run: the watch (timeout) list is either in
`server->watches` (`server->timeouts`) or held by exactly one frame that took it out for its
call-out, never both; the field, and every frame that holds the list, hold the initial list
after exactly the list operations that ran, in order, so it is never replaced by another value;
at most one list operation on it runs at any time; when no call is in flight it is in the field;
and a call of `protected_change_*` or `dbus_server_set_*_functions` that finds the field `NULL`
runs no list operation, changes nothing in the server, and returns `FALSE`. -/
theorem registry_in_one_place {allowed : Op → Prop} {n : Nat} {σ₀ σ : Sys n}
    (h : Reach allowed σ₀ σ) (hf : σ.tr.finalized = false) (k : ListKind) :
    σ.registryPlaces k = 1 ∧
    (∀ l, σ.srv.list k = some l → l = replay k (σ₀.initialList k) σ.tr.listOps) ∧
    (∀ i, ∀ l ∈ holdings k (σ.threads i).stack, l = replay k (σ₀.initialList k) σ.tr.listOps) ∧
    ∑ i, (σ.threads i).stack.countP (Frame.inListOp k) ≤ 1 ∧
    ((∀ i, (σ.threads i).stack = []) →
      σ.srv.list k = some (replay k (σ₀.initialList k) σ.tr.listOps)) ∧
    ∀ σ' r, Step allowed σ σ' → σ'.tr.returns = σ.tr.returns ++ [r] → r.found = false →
      r.value = false ∧ σ'.srv = σ.srv ∧ σ'.tr.listOps = σ.tr.listOps := by
  have hR := h.regInv
  have hown := hR.owned hf k
  -- a run has a thread, which sees the field
  have hn : 0 < n := by
    have := h.init_of.held
    rcases n with _ | n
    · simp [Sys.heldTotal] at this
    · omega
  have hfield : ∀ l, σ.srv.list k = some l → l = replay k (σ₀.initialList k) σ.tr.listOps :=
    fun l hl => hR.contents hf k ⟨0, hn⟩ l (by simp [copies, hl])
  refine ⟨hown, hfield, fun i l hl => hR.contents hf k i l (by simp [copies, hl]), ?_,
    fun hq => ?_, fun σ' r hs hr hfound => ?_⟩
  · have := Finset.sum_le_sum fun i (_ : i ∈ Finset.univ) =>
      countP_inListOp_le k (σ.threads i).stack
    simp only [Sys.registryPlaces] at hown
    omega
  · simp only [Sys.registryPlaces, hq, holdings_nil, List.length_nil, Finset.sum_const_zero,
      add_zero] at hown
    obtain ⟨l, hl⟩ : ∃ l, σ.srv.list k = some l :=
      Option.isSome_iff_exists.1 (by by_contra hn; simp [hn] at hown)
    rw [hl, hfield l hl]
  · cases hs with
    | thread i h =>
      rcases h.returns_cases with he | ⟨r', he, hl, hr', -⟩ <;> rw [he] at hr
      · simp at hr
      · obtain rfl := List.singleton_injective (List.append_cancel_left hr)
        exact ⟨(hr' hfound).1, (hr' hfound).2, hl⟩
    | give => simp at hr

/-- The theorem on a run that adds watch 1 and is inside `dbus_server_set_watch_functions`, whose
`_dbus_watch_list_set_functions` has installed functions `7`: the list is out of the field, and
the frame holds the initial list with the add and the new functions. -/
theorem registry_in_one_place_set_functions :
    ∃ σ : Sys 1, Reach (fun _ => True) (Sys.fresh 1) σ ∧ σ.srv.watches = none ∧
      holdings .watch (σ.threads 0).stack = [⟨[(1, true)], 7⟩] ∧
      ∀ l ∈ holdings .watch (σ.threads 0).stack,
        l = replay .watch ((Sys.fresh 1).initialList .watch) σ.tr.listOps := by
  have r0 : Reach (fun _ => True) (Sys.fresh 1) (Sys.fresh 1) := .init (Sys.fresh_init Nat.one_pos)
  have r1 := r0.step (.thread 0 (.call (.caller .watch (.add 1)) trivial rfl rfl (by decide)))
  have r2 := r1.step (.thread 0 (.callerLock rfl))
  have r3 := r2.step (.thread 0 (.changeAttached rfl))
  have r4 := r3.step (.thread 0 (.changeReturn true))
  have r5 := r4.step (.thread 0 (.changeRelock rfl))
  have r6 := r5.step (.thread 0 .callerUnlock)
  have r7 := r6.step (.thread 0 (.call (.setFunctions .watch 7) trivial rfl rfl (by decide)))
  have r8 := r7.step (.thread 0 (.setFunctionsAttached rfl rfl))
  have r9 := r8.step (.thread 0 (.setFunctionsReturn true))
  exact ⟨_, r9, rfl, rfl, (registry_in_one_place r9 rfl .watch).2.2.1 0⟩

/-- **What a registry call reports.**  In every run, until `_dbus_server_finalize_base` has run,
at every step that returns from `protected_change_*` or `dbus_server_set_*_functions`: a call that
found its registry returns the value the outcome of its one list operation gives, which is the
last one logged on that registry, and its caller is told that outcome (`_dbus_server_add_*`:
whether the add succeeded; `dbus_server_set_*_functions`: the result of
`_dbus_watch_list_set_functions`) or nothing (the `void` remove and toggle); a call that found it
`NULL` returns `FALSE`, and its caller is told `FALSE`, or nothing. -/
theorem registry_call_reports {allowed : Op → Prop} {n : Nat} {σ₀ σ σ' : Sys n}
    (h : Reach allowed σ₀ σ) (hf : σ.tr.finalized = false) (hs : Step allowed σ σ')
    (r : ReturnRecord) (hr : σ'.tr.returns = σ.tr.returns ++ [r]) :
    (r.found = true → ∃ ok, lastOp r.kind σ.tr.listOps = some ⟨r.kind, r.call, ok⟩ ∧
      r.value = r.call.retval ok ∧ r.reported = r.call.outcomeReport ok) ∧
    (r.found = false → r.value = false ∧ r.reported = r.call.outcomeReport false) := by
  cases hs with
  | give => simp at hr
  | thread i h' =>
    rcases h'.returns_cases with he | ⟨r', he, -, hfalse, htrue⟩ <;> rw [he] at hr
    · simp at hr
    · obtain rfl := List.singleton_injective (List.append_cancel_left hr)
      refine ⟨fun hfound => ?_, fun hfound => ?_⟩
      · obtain ⟨ok, hl, hv⟩ := h.regInv.returned hf r'.kind i _ (htrue hfound)
        dsimp only at hl hv
        exact ⟨ok, hl, hv, by rw [r'.reported_eq, hv, r'.call.outcomeReport_retval]⟩
      · have hv := (hfalse hfound).1
        exact ⟨hv, by rw [r'.reported_eq, hv]⟩

/-- The theorem on the return of `_dbus_server_add_watch` after a successful add: the add is the
last list operation logged, and the caller is told `TRUE`. -/
theorem registry_call_reports_add_watch :
    ∃ σ σ' : Sys 1, Reach (fun _ => True) (Sys.fresh 1) σ ∧ σ.tr.finalized = false ∧
      Step (fun _ => True) σ σ' ∧
      σ'.tr.returns = σ.tr.returns ++ [⟨0, .watch, .change (.add 1), true, true⟩] ∧
      ∃ ok, lastOp .watch σ.tr.listOps = some ⟨.watch, .change (.add 1), ok⟩ ∧
        RegistryCall.outcomeReport (.change (.add 1)) ok = some true := by
  have r0 : Reach (fun _ => True) (Sys.fresh 1) (Sys.fresh 1) := .init (Sys.fresh_init Nat.one_pos)
  have r1 := r0.step (.thread 0 (.call (.caller .watch (.add 1)) trivial rfl rfl (by decide)))
  have r2 := r1.step (.thread 0 (.callerLock rfl))
  have r3 := r2.step (.thread 0 (.changeAttached rfl))
  have r4 := r3.step (.thread 0 (.changeReturn true))
  obtain ⟨ok, hl, -, hrep⟩ :=
    (registry_call_reports r4 rfl (.thread 0 (.changeRelock rfl)) _ rfl).1 rfl
  exact ⟨_, _, r4, rfl, .thread 0 (.changeRelock rfl), rfl, ok, hl, hrep.symm⟩

/-- **A remove issued while the list is out is lost.**  One thread adds watch 1, then adds watch
2; the application's `add` function for watch 2 removes watch 1.  That
`_dbus_server_remove_watch` finds `server->watches` `NULL`: `protected_change_watch` returns
`FALSE`, and the `void` remove drops it, so its caller is told nothing.  Once every call has
returned, no remove has run on the list and watch 1 is still in it, although its add succeeded
and a remove followed it. -/
theorem remove_lost_while_detached :
    ∃ σ : Sys 1, Reach (fun op => ∃ k c, op = .caller k c) (Sys.fresh 1) σ ∧
      (∀ i, (σ.threads i).stack = []) ∧
      σ.tr.returns = [⟨0, .watch, .change (.add 1), true, true⟩,
        ⟨0, .watch, .change (.remove 1), false, false⟩, ⟨0, .watch, .change (.add 2), true, true⟩] ∧
      σ.tr.returns.map ReturnRecord.reported = [some true, none, some true] ∧
      σ.tr.listOps = [⟨.watch, .change (.add 1), true⟩, ⟨.watch, .change (.add 2), true⟩] ∧
      σ.srv.watches = some ⟨[(1, true), (2, true)], 0⟩ := by
  have r0 : Reach (fun op => ∃ k c, op = .caller k c) (Sys.fresh 1) (Sys.fresh 1) :=
    .init (Sys.fresh_init Nat.one_pos)
  have r1 := r0.step (.thread 0 (.call (.caller .watch (.add 1)) ⟨_, _, rfl⟩ rfl rfl (by decide)))
  have r2 := r1.step (.thread 0 (.callerLock rfl))
  have r3 := r2.step (.thread 0 (.changeAttached rfl))
  have r4 := r3.step (.thread 0 (.changeReturn true))
  have r5 := r4.step (.thread 0 (.changeRelock rfl))
  have r6 := r5.step (.thread 0 .callerUnlock)
  have r7 := r6.step (.thread 0 (.call (.caller .watch (.add 2)) ⟨_, _, rfl⟩ rfl rfl (by decide)))
  have r8 := r7.step (.thread 0 (.callerLock rfl))
  have r9 := r8.step (.thread 0 (.changeAttached rfl))
  have r10 := r9.step (.thread 0
    (.call (.caller .watch (.remove 1)) ⟨_, _, rfl⟩ rfl rfl (by decide)))
  have r11 := r10.step (.thread 0 (.callerLock rfl))
  have r12 := r11.step (.thread 0 (.changeDetached rfl))
  have r13 := r12.step (.thread 0 .callerUnlock)
  have r14 := r13.step (.thread 0 (.changeReturn true))
  have r15 := r14.step (.thread 0 (.changeRelock rfl))
  have r16 := r15.step (.thread 0 .callerUnlock)
  exact ⟨_, r16, by decide, rfl, rfl, rfl, rfl⟩

/-! ## 5. What `_dbus_server_finalize_base` frees -/

/-- A frame outside every temporary reference that holds a registry is in
`dbus_server_set_*_functions`. -/
theorem Frame.setFunctions_of_holds {f : Frame} {k : ListKind} {l : DBusWatchList}
    (h : f.holds k = some l) (hw : f.window = false) : ∃ fns pc, f = .setFunctions k fns pc := by
  cases f with
  | change k' c pc => cases pc <;> simp [Frame.window, Frame.holds] at hw h
  | setFunctions k' fns pc =>
    have hk : k' = k := by cases pc <;> simp [Frame.holds] at h <;> exact h.1
    exact ⟨fns, pc, by rw [hk]⟩
  | _ => simp [Frame.holds] at h

/-- **What `_dbus_server_finalize_base` frees.**  In every run, at the step that runs the end of
`_dbus_server_finalize_base` (`_dbus_watch_list_free (server->watches)` and the rest), each
registry is in its field, or a call of `dbus_server_set_*_functions` has it taken out.  It is
never out in `protected_change_*`: that function holds a temporary reference while it has the
list, and the count is zero when the server is finalized. -/
theorem registries_at_finalize {allowed : Op → Prop} {n : Nat} {σ₀ σ σ' : Sys n}
    (h : Reach allowed σ₀ σ) (hs : Step allowed σ σ') (hf : σ.tr.finalized = false)
    (hf' : σ'.tr.finalized = true) (k : ListKind) :
    (σ.srv.list k).isSome ∨ ∃ (i : Fin n) (fns : Nat) (pc : SetFunctionsPc),
      Frame.setFunctions k fns pc ∈ (σ.threads i).stack ∧
        ((Frame.setFunctions k fns pc).holds k).isSome := by
  have hI := h.inv
  -- the step ends `_dbus_server_finalize_base`, so the count is zero
  have h0 : σ.srv.refcount = 0 := by
    cases hs with
    | thread i ht =>
      rcases ht.finalized_cases hf' with e | ⟨ht', -⟩
      · rw [hf] at e; cases e
      · exact hI.inFinalize i ht'
    | give => rw [hf] at hf'; cases hf'
  -- so no frame is inside a temporary reference
  have hw : ∀ i, ∀ f ∈ (σ.threads i).stack, f.window = false := fun i f hfm => by
    have hb := hI.balance.trans σ.weight_eq
    have hi := le_sum (fun th => windows th.stack) σ.threads i
    simp only [Sys.windowsTotal] at hb
    have hz : windows (σ.threads i).stack = 0 := by omega
    simpa using List.countP_eq_zero.1 hz f hfm
  by_cases hk : (σ.srv.list k).isSome
  · exact .inl hk
  -- the registry is in exactly one place, so some frame holds it
  have hown := h.regInv.owned hf k
  simp only [Sys.registryPlaces, hk, Bool.false_eq_true, ↓reduceIte, zero_add] at hown
  obtain ⟨i, -, hi⟩ := Finset.exists_ne_zero_of_sum_ne_zero (hown.trans_ne one_ne_zero)
  obtain ⟨l, hl⟩ := List.exists_mem_of_ne_nil _ (List.length_pos.1 (Nat.pos_of_ne_zero hi))
  obtain ⟨f, hfm, hfl⟩ : ∃ f ∈ (σ.threads i).stack, f.holds k = some l := List.mem_filterMap.1 hl
  obtain ⟨fns, pc, rfl⟩ := Frame.setFunctions_of_holds hfl (hw i f hfm)
  exact .inr ⟨i, fns, pc, hfm, by simp [hfl]⟩

/-- The theorem on a run that disconnects the server and releases its only reference. -/
theorem registries_at_finalize_after_unref :
    ∃ σ σ' : Sys 1, Reach (fun _ => True) (Sys.fresh 1) σ ∧ Step (fun _ => True) σ σ' ∧
      σ.tr.finalized = false ∧ σ'.tr.finalized = true ∧
      ((σ.srv.list .watch).isSome ∨ ∃ (i : Fin 1) (fns : Nat) (pc : SetFunctionsPc),
        Frame.setFunctions .watch fns pc ∈ (σ.threads i).stack ∧
          ((Frame.setFunctions .watch fns pc).holds .watch).isSome) := by
  have r0 : Reach (fun _ => True) (Sys.fresh 1) (Sys.fresh 1) := .init (Sys.fresh_init Nat.one_pos)
  have r1 := r0.step (.thread 0 (.call .disconnect trivial rfl rfl (by decide)))
  have r2 := r1.step (.thread 0 (.disconnectFirst rfl rfl))
  have r3 := r2.step (.thread 0 .vtableDone)
  have r4 := r3.step (.thread 0 .disconnectUnlock)
  have r5 := r4.step (.thread 0 .disconnectUnref)
  have r6 := r5.step (.thread 0 (.unref trivial rfl (by decide) (by decide)))
  have r7 := r6.step (.thread 0 .finalizeSlots)
  exact ⟨_, _, r7, .thread 0 (.finalizeRest rfl), rfl, rfl,
    registries_at_finalize r7 (.thread 0 (.finalizeRest rfl)) rfl rfl .watch⟩

/-- **`_dbus_server_finalize_base` can run inside `dbus_server_set_watch_functions`.**  One thread
holds the only reference.  It disconnects the server and calls `dbus_server_set_watch_functions`,
and inside `_dbus_watch_list_set_functions` application code releases the thread's reference.
The server is finalized while `server->watches` is `NULL`: `_dbus_watch_list_free` is passed
`NULL`, and the list is never freed.  When `_dbus_watch_list_set_functions` returns, the thread
stores the list back into the finalized server. -/
theorem finalize_inside_set_watch_functions :
    ∃ σ σ' σ'' : Sys 1,
      Reach (fun op => op ∈ [.disconnect, .setFunctions .watch 0, .unref]) (Sys.fresh 1) σ ∧
      Step (fun op => op ∈ [.disconnect, .setFunctions .watch 0, .unref]) σ σ' ∧
      σ.tr.finalized = false ∧ σ'.tr.finalized = true ∧ σ.srv.watches = none ∧
      Reach (fun op => op ∈ [.disconnect, .setFunctions .watch 0, .unref]) (Sys.fresh 1) σ'' ∧
      σ''.tr.finalized = true ∧ σ''.srv.watches.isSome := by
  have r0 : Reach (fun op => op ∈ [.disconnect, .setFunctions .watch 0, .unref]) (Sys.fresh 1)
      (Sys.fresh 1) := .init (Sys.fresh_init Nat.one_pos)
  have r1 := r0.step (.thread 0 (.call .disconnect (by decide) rfl rfl (by decide)))
  have r2 := r1.step (.thread 0 (.disconnectFirst rfl rfl))
  have r3 := r2.step (.thread 0 .vtableDone)
  have r4 := r3.step (.thread 0 .disconnectUnlock)
  have r5 := r4.step (.thread 0 .disconnectUnref)
  have r6 := r5.step (.thread 0 (.call (.setFunctions .watch 0) (by decide) rfl rfl (by decide)))
  have r7 := r6.step (.thread 0 (.setFunctionsAttached rfl rfl))
  have r8 := r7.step (.thread 0 (.unref (by decide) rfl (by decide) (by decide)))
  have r9 := r8.step (.thread 0 .finalizeSlots)
  have r10 := r9.step (.thread 0 (.finalizeRest rfl))
  have r12 := (r10.step (.thread 0 (.setFunctionsReturn true))).step
    (.thread 0 (.setFunctionsRelock rfl))
  exact ⟨_, _, _, r9, .thread 0 (.finalizeRest rfl), rfl, rfl, rfl, r12, rfl, rfl⟩
end DBus
