import Mathlib.Data.List.Chain
import TikvOperator.Regexp
import TikvOperator.Upgrading

/-!
# Store status synchronisation

`syncTikvClusterStatus` mirrors the StatefulSet's status into the cluster's, derives the TiKV
phase, and rebuilds the `Stores` and `TombstoneStores` maps from the placement service's two
listings, keeping only stores whose address matches the cluster's ownership pattern. A store
listed with a zero heartbeat keeps the heartbeat recorded in the previous `Stores` map, and its
transition time moves only when its state changes. The new maps are committed together, after
both listings succeeded.

## Main results

* `lookup_foldl_syncStore`: the `Stores` map the loop builds, as the last listed record of each ID.
* `syncTikvClusterStatus_outcome`: the three outcomes of a sync (upgrade check failed, a listing
  failed, both listings succeeded).
* `stores_heartbeat_step`, `stores_heartbeat_run`: what one sync and a whole run preserve of a
  store's heartbeat and transition time.
* `statusRun_transitionsBy`: under a clock that never goes back, no state records a transition
  later than its own cycle's clock.
* `statusRun_storesOwned`: every record a run keeps is the record of a store the cluster owns.
-/

namespace TikvOperator

open Regexp

/-- `getTiKVStore`: the status record of a listed store, when both pointers are set. -/
def getTiKVStore (info : StoreInfo) : Option TiKVStore :=
  match info.store, info.status with
  | some store, some status =>
    let ip := splitHead store.address ':'
    some { id := toString store.id, podName := splitHead ip '.', ip := ip,
           leaderCount := int32 status.leaderCount, state := store.stateName,
           lastHeartbeatTime := status.lastHeartbeatTS, lastTransitionTime := 0 }
  | _, _ => none

/-- The ownership filter of both store loops: an entry whose store is set and whose address does
not match the pattern is skipped. -/
def ownedStore (pattern : List Item) (info : StoreInfo) : Bool :=
  match info.store with
  | some store => find pattern store.address.data
  | none => true

/-- `regexp.Compile(fmt.Sprintf(tikvStoreLimitPattern, tc.Name, tc.Name, tc.Namespace))`. -/
def compileOwnerPattern (tc : TikvCluster) : SyncM (List Item) :=
  match ownerPattern tc.name tc.ns with
  | some pattern => pure pattern
  | none => throw .regexp

theorem compileOwnerPattern_eq (tc : TikvCluster) (w : World) :
    compileOwnerPattern tc w = .ok (ownerItems tc.name tc.ns) w := by
  simp [compileOwnerPattern, ownerPattern_eq tc.name_valid tc.ns_valid, pure, EStateM.pure]

/-- One iteration of the loop over the active stores. -/
def syncStore (previousStores : GoMap TiKVStore) (now : Nat) (pattern : List Item)
    (stores : GoMap TiKVStore) (info : StoreInfo) : GoMap TiKVStore :=
  if !ownedStore pattern info then stores
  else match getTiKVStore info with
  | none => stores
  | some status =>
    -- avoid LastHeartbeatTime be overwrite by zero time when pd lost LastHeartbeatTime
    let lastHeartbeatTime :=
      if status.lastHeartbeatTime = 0 then
        match previousStores.lookup status.id with
        | some oldStatus => oldStatus.lastHeartbeatTime
        | none => status.lastHeartbeatTime
      else status.lastHeartbeatTime
    let lastTransitionTime :=
      match previousStores.lookup status.id with
      | some oldStore => if status.state = oldStore.state then oldStore.lastTransitionTime else now
      | none => now
    stores.insert status.id { status with lastHeartbeatTime, lastTransitionTime }

/-- One iteration of the loop over the tombstone stores. -/
def syncTombstone (pattern : List Item) (stores : GoMap TiKVStore) (info : StoreInfo) :
    GoMap TiKVStore :=
  if !ownedStore pattern info then stores
  else match getTiKVStore info with
  | none => stores
  | some status => stores.insert status.id status

/-- A placement-service listing; a failed one marks the status unsynced and ends the sync. -/
def fetchStores : Except Error (List StoreInfo) → SyncM (List StoreInfo)
  | .ok infos => pure infos
  | .error e => do
    modifyTiKV fun s => { s with synced := false }
    throw e

/-- `syncTikvClusterStatus(tc, set)`; `none` is a StatefulSet not created yet. -/
def syncTikvClusterStatus (env : Env) : Option StatefulSet → SyncM Unit
  | none => pure ()
  | some set => do
    modifyTiKV fun s => { s with statefulSet := some set.status }
    let tc ← getTc
    let upgrading ← read
      (tikvStatefulSetIsUpgrading env.helpers.statefulSetIsUpgrading env.pods set tc)
    modifyTiKV fun s => { s with phase := tikvPhase upgrading tc.status.pdPhase }
    let previousStores := tc.status.tikv.stores
    let storesInfo ← fetchStores env.stores
    let pattern ← compileOwnerPattern tc
    let stores := storesInfo.foldl (syncStore previousStores env.now pattern) ∅
    let tombstoneStoresInfo ← fetchStores env.tombStoneStores
    let tombstoneStores := tombstoneStoresInfo.foldl (syncTombstone pattern) ∅
    modifyTiKV fun s => { s with
      synced := true, stores := stores, tombstoneStores := tombstoneStores,
      image := ((env.helpers.filterContainer set "tikv").map (·.image)).getD "" }

/-! ## The maps the loops build -/

/-- The record the status loop stores for a kept entry: `getTiKVStore`'s, with a zero heartbeat
replaced by the previous entry's, and the transition time kept from the previous entry while the
state is unchanged, else the current time. -/
def carriedRecord (previousStores : GoMap TiKVStore) (now : Nat) (s : TiKVStore) : TiKVStore :=
  { s with
    lastHeartbeatTime := match previousStores.lookup s.id with
      | some old => if s.lastHeartbeatTime = 0 then old.lastHeartbeatTime else s.lastHeartbeatTime
      | none => s.lastHeartbeatTime
    lastTransitionTime := match previousStores.lookup s.id with
      | some old => if s.state = old.state then old.lastTransitionTime else now
      | none => now }

/-- The record of an entry, when a loop keeps it: set pointers and an owned address. -/
def keptRecord (pattern : List Item) (info : StoreInfo) : Option TiKVStore :=
  if ownedStore pattern info then getTiKVStore info else none

/-- The records of the entries a loop keeps, in listing order. -/
def keptStores (pattern : List Item) (infos : List StoreInfo) : List TiKVStore :=
  infos.filterMap (keptRecord pattern)

/-- One iteration of a loop that inserts the record of each kept entry. -/
def insertKept (g : StoreInfo → Option TiKVStore) (f : TiKVStore → TiKVStore)
    (stores : GoMap TiKVStore) (info : StoreInfo) : GoMap TiKVStore :=
  match g info with
  | some s => stores.insert s.id (f s)
  | none => stores

theorem syncStore_eq (previousStores : GoMap TiKVStore) (now : Nat) (pattern : List Item) :
    syncStore previousStores now pattern =
      insertKept (keptRecord pattern) (carriedRecord previousStores now) := by
  funext stores info
  unfold syncStore insertKept keptRecord
  cases ownedStore pattern info
  · simp
  · cases hg : getTiKVStore info with
    | none => simp
    | some s =>
      cases hp : previousStores.lookup s.id <;> by_cases hb : s.lastHeartbeatTime = 0 <;>
        simp [hp, hb, carriedRecord]

theorem syncTombstone_eq (pattern : List Item) :
    syncTombstone pattern = insertKept (keptRecord pattern) id := by
  funext stores info
  unfold syncTombstone insertKept keptRecord
  cases ownedStore pattern info <;> simp
  rcases getTiKVStore info with _ | s <;> rfl

/-- The loop over a listing: the last kept entry of an ID wins. -/
theorem lookup_foldl_insertKept (g : StoreInfo → Option TiKVStore) (f : TiKVStore → TiKVStore)
    (infos : List StoreInfo) (m : GoMap TiKVStore) (k : String) :
    (infos.foldl (insertKept g f) m).lookup k =
      (((infos.filterMap g).reverse.find? (·.id == k)).map f).or (m.lookup k) := by
  induction infos generalizing m with
  | nil => simp
  | cons info infos ih =>
    rw [List.foldl_cons, ih]
    unfold insertKept
    cases hg : g info with
    | none => simp [hg]
    | some s =>
      by_cases hk : s.id = k
      · subst hk
        simp only [List.filterMap_cons_some hg, List.reverse_cons, List.find?_append,
          AList.lookup_insert]
        cases (List.filterMap g infos).reverse.find? (·.id == s.id) <;> simp
      · simp [List.filterMap_cons_some hg, List.find?_append,
          AList.lookup_insert_ne (Ne.symm hk), hk]

theorem lookup_foldl_syncStore (previousStores : GoMap TiKVStore) (now : Nat)
    (pattern : List Item) (infos : List StoreInfo) (k : String) :
    (infos.foldl (syncStore previousStores now pattern) ∅).lookup k =
      ((keptStores pattern infos).reverse.find? (·.id == k)).map
        (carriedRecord previousStores now) := by
  simp [syncStore_eq, lookup_foldl_insertKept, keptStores]

theorem lookup_foldl_syncTombstone (pattern : List Item) (infos : List StoreInfo) (k : String) :
    (infos.foldl (syncTombstone pattern) ∅).lookup k =
      (keptStores pattern infos).reverse.find? (·.id == k) := by
  simp [syncTombstone_eq, lookup_foldl_insertKept, keptStores]

/-! ## The outcomes of one sync -/

/-- The state once the StatefulSet's status is mirrored into the cluster's, as the upgrade check
sees it. -/
def mirrorStatefulSet (set : StatefulSet) (w : World) : World :=
  { w with tc.status.tikv.statefulSet := some set.status }

section Outcome

variable (env : Env) (set : StatefulSet) (w : World)

/-- The upgrade check as `syncTikvClusterStatus` makes it. -/
abbrev upgradeCheck : Except Error Bool :=
  tikvStatefulSetIsUpgrading env.helpers.statefulSetIsUpgrading env.pods set
    (mirrorStatefulSet set w).tc

theorem syncTikvClusterStatus_check_error {e : Error} (hu : upgradeCheck env set w = .error e) :
    syncTikvClusterStatus env (some set) w = .error e (mirrorStatefulSet set w) := by
  simp only [upgradeCheck, mirrorStatefulSet] at hu
  simp [syncTikvClusterStatus, mirrorStatefulSet, hu]

theorem syncTikvClusterStatus_stores_error {up : Bool} {e : Error}
    (hu : upgradeCheck env set w = .ok up) (hs : env.stores = .error e) :
    syncTikvClusterStatus env (some set) w = .error e { mirrorStatefulSet set w with
      tc.status.tikv.phase := tikvPhase up w.tc.status.pdPhase
      tc.status.tikv.synced := false } := by
  simp only [upgradeCheck, mirrorStatefulSet] at hu
  simp [syncTikvClusterStatus, mirrorStatefulSet, fetchStores, hu, hs]

theorem syncTikvClusterStatus_tombstones_error {up : Bool} {infos : List StoreInfo} {e : Error}
    (hu : upgradeCheck env set w = .ok up) (hs : env.stores = .ok infos)
    (ht : env.tombStoneStores = .error e) :
    syncTikvClusterStatus env (some set) w = .error e { mirrorStatefulSet set w with
      tc.status.tikv.phase := tikvPhase up w.tc.status.pdPhase
      tc.status.tikv.synced := false } := by
  simp only [upgradeCheck, mirrorStatefulSet] at hu
  simp [syncTikvClusterStatus, mirrorStatefulSet, fetchStores, compileOwnerPattern_eq, hu, hs, ht]

theorem syncTikvClusterStatus_ok {up : Bool} {infos tinfos : List StoreInfo}
    (hu : upgradeCheck env set w = .ok up) (hs : env.stores = .ok infos)
    (ht : env.tombStoneStores = .ok tinfos) :
    syncTikvClusterStatus env (some set) w = .ok () { mirrorStatefulSet set w with
      tc.status.tikv.phase := tikvPhase up w.tc.status.pdPhase, tc.status.tikv.synced := true,
      tc.status.tikv.stores := infos.foldl
        (syncStore w.tc.status.tikv.stores env.now (ownerItems w.tc.name w.tc.ns)) ∅,
      tc.status.tikv.tombstoneStores :=
        tinfos.foldl (syncTombstone (ownerItems w.tc.name w.tc.ns)) ∅,
      tc.status.tikv.image :=
        ((env.helpers.filterContainer set "tikv").map (·.image)).getD "" } := by
  simp only [upgradeCheck, mirrorStatefulSet] at hu
  simp [syncTikvClusterStatus, mirrorStatefulSet, fetchStores, compileOwnerPattern_eq, hu, hs, ht]

end Outcome

/-- What a sync of an observed StatefulSet does to `Synced`, `Stores`, `TombstoneStores` and
`Image`: an upgrade check that fails returns before any listing and changes none of them; a
failed listing returns an error, marks the status unsynced and keeps the maps and the image; two
successful listings mark it synced and rebuild both maps from the kept entries, the last entry of
an ID winning, with no entry of the previous maps surviving unless listed again. -/
theorem syncTikvClusterStatus_outcome (env : Env) (set : StatefulSet) (w : World) :
    let r := syncTikvClusterStatus env (some set) w
    let before := w.tc.status.tikv
    let after := (outcomeWorld r).tc.status.tikv
    let pattern := ownerItems w.tc.name w.tc.ns
    ((upgradeCheck env set w).isOk = false →
      isError r = true ∧ after.synced = before.synced ∧ after.stores = before.stores ∧
        after.tombstoneStores = before.tombstoneStores ∧ after.image = before.image) ∧
    ((upgradeCheck env set w).isOk = true →
      (env.stores.isOk = false ∨ env.tombStoneStores.isOk = false) →
      isError r = true ∧ after.synced = false ∧ after.stores = before.stores ∧
        after.tombstoneStores = before.tombstoneStores ∧ after.image = before.image) ∧
    ((upgradeCheck env set w).isOk = true → ∀ infos tinfos,
      env.stores = .ok infos → env.tombStoneStores = .ok tinfos →
      isError r = false ∧ after.synced = true ∧
      (∀ k, after.stores.lookup k = ((keptStores pattern infos).reverse.find? (·.id == k)).map
        (carriedRecord before.stores env.now)) ∧
      (∀ k, after.tombstoneStores.lookup k =
        (keptStores pattern tinfos).reverse.find? (·.id == k))) := by
  intro r before after pattern
  refine ⟨fun hc => ?_, fun hc hl => ?_, fun hc infos tinfos hs ht => ?_⟩
  · obtain ⟨e, he⟩ := exists_error_of_isOk_eq_false hc
    simp [r, after, before, syncTikvClusterStatus_check_error env set w he, mirrorStatefulSet]
  · obtain ⟨up, hu⟩ := exists_ok_of_isOk hc
    cases hs : env.stores with
    | error e =>
      simp [r, after, before, syncTikvClusterStatus_stores_error env set w hu hs, mirrorStatefulSet]
    | ok infos =>
      have ht : env.tombStoneStores.isOk = false :=
        hl.resolve_left (by simp [hs, Except.isOk, Except.toBool])
      obtain ⟨e, ht⟩ := exists_error_of_isOk_eq_false ht
      simp [r, after, before, syncTikvClusterStatus_tombstones_error env set w hu hs ht,
        mirrorStatefulSet]
  · obtain ⟨up, hu⟩ := exists_ok_of_isOk hc
    simp [r, after, before, pattern, syncTikvClusterStatus_ok env set w hu hs ht, mirrorStatefulSet,
      lookup_foldl_syncStore, lookup_foldl_syncTombstone]

/-- The upgrade check runs before the listings: when it fails, `Synced` is left as it was even
though `GetStores` would fail too. -/
theorem syncTikvClusterStatus_check_failure_keeps_synced :
    let env : Env := { (default : Env) with
      pods := fun _ => .error (.api "list pods"), stores := .error (.api "get stores") }
    let w : World := { (default : World) with tc.status.tikv.synced := true }
    env.stores.isOk = false ∧ isError (syncTikvClusterStatus env (some default) w) = true ∧
      (outcomeWorld (syncTikvClusterStatus env (some default) w)).tc.status.tikv.synced = true := by
  decide

/-! ## Runs -/

/-- The states a run of `syncTikvClusterStatus` passes through, one cycle per environment and
observed StatefulSet. -/
def statusRun : World → List (Env × Option StatefulSet) → List World
  | _, [] => []
  | w, (env, set) :: cycles =>
    let w' := outcomeWorld (syncTikvClusterStatus env set w)
    w' :: statusRun w' cycles

/-- A sync leaves both maps as they were, or rebuilds both from successful listings. -/
theorem syncTikvClusterStatus_maps (env : Env) (set : Option StatefulSet) (w : World) :
    let after := (outcomeWorld (syncTikvClusterStatus env set w)).tc.status.tikv
    let pattern := ownerItems w.tc.name w.tc.ns
    (after.stores = w.tc.status.tikv.stores ∧
        after.tombstoneStores = w.tc.status.tikv.tombstoneStores) ∨
      ∃ infos tinfos : List StoreInfo,
        after.stores = infos.foldl (syncStore w.tc.status.tikv.stores env.now pattern) ∅ ∧
        after.tombstoneStores = tinfos.foldl (syncTombstone pattern) ∅ := by
  cases set with
  | none => exact .inl ⟨rfl, rfl⟩
  | some set =>
    cases hu : upgradeCheck env set w with
    | error e => simp [syncTikvClusterStatus_check_error env set w hu, mirrorStatefulSet]
    | ok up =>
      cases hs : env.stores with
      | error e =>
        simp [syncTikvClusterStatus_stores_error env set w hu hs, mirrorStatefulSet]
      | ok infos =>
        cases ht : env.tombStoneStores with
        | error e =>
          simp [syncTikvClusterStatus_tombstones_error env set w hu hs ht, mirrorStatefulSet]
        | ok tinfos =>
          exact .inr ⟨infos, tinfos,
            by simp [syncTikvClusterStatus_ok env set w hu hs ht, mirrorStatefulSet]⟩

/-- A sync leaves `Stores` as it was, or rebuilds it from a successful active-store listing. -/
theorem syncTikvClusterStatus_stores (env : Env) (set : Option StatefulSet) (w : World) :
    (outcomeWorld (syncTikvClusterStatus env set w)).tc.status.tikv.stores =
        w.tc.status.tikv.stores ∨
      ∃ infos : List StoreInfo,
        (outcomeWorld (syncTikvClusterStatus env set w)).tc.status.tikv.stores = infos.foldl
          (syncStore w.tc.status.tikv.stores env.now (ownerItems w.tc.name w.tc.ns)) ∅ :=
  (syncTikvClusterStatus_maps env set w).imp And.left fun ⟨infos, _, h, _⟩ => ⟨infos, h⟩

/-- A status sync changes only the TiKV part of the cluster's status, and logs nothing. -/
theorem syncTikvClusterStatus_frame (env : Env) (set : Option StatefulSet) (w : World) :
    outcomeWorld (syncTikvClusterStatus env set w) = { w with
      tc.status.tikv := (outcomeWorld (syncTikvClusterStatus env set w)).tc.status.tikv } := by
  cases set with
  | none => rfl
  | some set =>
    cases hu : upgradeCheck env set w with
    | error e => rw [syncTikvClusterStatus_check_error env set w hu]; rfl
    | ok up =>
      cases hs : env.stores with
      | error e => rw [syncTikvClusterStatus_stores_error env set w hu hs]; rfl
      | ok infos =>
        cases ht : env.tombStoneStores with
        | error e => rw [syncTikvClusterStatus_tombstones_error env set w hu hs ht]; rfl
        | ok tinfos => rw [syncTikvClusterStatus_ok env set w hu hs ht]; rfl

theorem syncTikvClusterStatus_confined (env : Env) (set : Option StatefulSet) :
    Confined (fun _ => False) (syncTikvClusterStatus env set) := fun w => by
  rw [syncTikvClusterStatus_frame]
  exact ⟨rfl, [], by simp, by simp⟩

/-- What a sync keeps of a store recorded before and after it: a non-zero heartbeat stays
non-zero, and the transition time moves only with the state. -/
def RecordStep (old new : TiKVStore) : Prop :=
  (old.lastHeartbeatTime ≠ 0 → new.lastHeartbeatTime ≠ 0) ∧
    (new.lastTransitionTime ≠ old.lastTransitionTime → new.state ≠ old.state)

theorem carriedRecord_step {previousStores : GoMap TiKVStore} {old : TiKVStore} (now : Nat)
    (s : TiKVStore) (hold : previousStores.lookup s.id = some old) :
    RecordStep old (carriedRecord previousStores now s) := by
  constructor <;> by_cases h : s.lastHeartbeatTime = 0 <;> by_cases hs : s.state = old.state <;>
    simp [carriedRecord, hold, h, hs]

theorem stores_record_step (env : Env) (set : Option StatefulSet) (w : World) {id : String}
    {old new : TiKVStore} (hold : w.tc.status.tikv.stores.lookup id = some old)
    (hnew : (outcomeWorld (syncTikvClusterStatus env set w)).tc.status.tikv.stores.lookup id =
      some new) : RecordStep old new := by
  rcases syncTikvClusterStatus_stores env set w with h | ⟨infos, h⟩
  · rw [h, hold] at hnew
    cases hnew
    exact ⟨fun h => h, fun h => absurd rfl h⟩
  · rw [h, lookup_foldl_syncStore] at hnew
    obtain ⟨s, hs, rfl⟩ := Option.map_eq_some'.mp hnew
    have hid : s.id = id := by simpa using List.find?_some hs
    exact carriedRecord_step env.now s (hid ▸ hold)

/-- Over every run, from any state and for every store ID: between two consecutive states that
both record the ID, a non-zero heartbeat stays non-zero and the transition time moves only with
the state; and a non-zero heartbeat stays non-zero for as long as the ID stays in `Stores`. -/
theorem stores_heartbeat_run (w : World) (cycles : List (Env × Option StatefulSet)) (id : String) :
    (w :: statusRun w cycles).Chain' (fun a b => ∀ old new,
      a.tc.status.tikv.stores.lookup id = some old →
      b.tc.status.tikv.stores.lookup id = some new → RecordStep old new) ∧
    ((∃ st, w.tc.status.tikv.stores.lookup id = some st ∧ st.lastHeartbeatTime ≠ 0) →
      (∀ w' ∈ statusRun w cycles, id ∈ w'.tc.status.tikv.stores) →
      ∀ w' ∈ statusRun w cycles, ∀ st,
        w'.tc.status.tikv.stores.lookup id = some st → st.lastHeartbeatTime ≠ 0) := by
  induction cycles generalizing w with
  | nil => exact ⟨List.chain'_singleton w, fun _ _ _ h => absurd h (List.not_mem_nil _)⟩
  | cons c cycles ih =>
    obtain ⟨env, set⟩ := c
    obtain ⟨ihc, ihh⟩ := ih (outcomeWorld (syncTikvClusterStatus env set w))
    refine ⟨List.Chain'.cons' ihc ?_, ?_⟩
    · intro b hb old new hold hnew
      simp only [statusRun, List.head?_cons, Option.mem_def, Option.some.injEq] at hb
      subst hb
      exact stores_record_step env set w hold hnew
    · rintro ⟨st, hst, hhb⟩ hall w' hw' st' hst'
      have hmem := hall _ (List.mem_cons_self _ _)
      obtain ⟨new, hnew⟩ := Option.isSome_iff_exists.mp (AList.lookup_isSome.mpr hmem)
      have hstep := (stores_record_step env set w hst hnew).1 hhb
      rcases List.mem_cons.mp hw' with rfl | hw'
      · rw [hnew] at hst'; cases hst'; exact hstep
      · exact ihh ⟨new, hnew, hstep⟩ (fun v hv => hall v (List.mem_cons_of_mem _ hv))
          w' hw' st' hst'

/-- A store missing from one listing loses its heartbeat: reported with 5, then not listed, then
reported with zero heartbeat, its record ends with a zero heartbeat. -/
theorem stores_heartbeat_lost_after_gap :
    let store (hb : Nat) : StoreInfo :=
      ⟨some ⟨1, "basic-tikv-0.basic-tikv-peer.default.svc:20160", "Up", []⟩, some ⟨0, hb⟩⟩
    let env (infos : List StoreInfo) : Env := { (default : Env) with
      pods := fun _ => .ok [], stores := .ok infos, tombStoneStores := .ok [] }
    let tc : TikvCluster := { (default : TikvCluster) with
      name := "basic", ns := "default", name_valid := by decide, ns_valid := by decide }
    let run := statusRun ⟨tc, []⟩
      [(env [store 5], some default), (env [], some default), (env [store 0], some default)]
    run.map (fun w => (w.tc.status.tikv.stores.lookup "1").map (·.lastHeartbeatTime)) =
      [some 5, none, some 0] := by
  decide

/-! ## Ownership of a listed store -/

/-- The ownership check accepts an address that only contains a peer address of the cluster,
and `getTiKVStore` then derives a pod name that is not one of the cluster's pods. -/
theorem ownership_accepts_prefixed_address :
    ownerPattern "basic" "default" = some (ownerItems "basic" "default") ∧
    find (ownerItems "basic" "default")
      "xbasic-tikv-0.basic-tikv-peer.default.svc:20160".data = true ∧
    (¬ ∃ d p, IsDigits d ∧ IsDigits p ∧
      "xbasic-tikv-0.basic-tikv-peer.default.svc:20160" = canonicalAddress "basic" "default" d p) ∧
    (getTiKVStore ⟨some ⟨1, "xbasic-tikv-0.basic-tikv-peer.default.svc:20160", "Up", []⟩,
      some ⟨0, 0⟩⟩).map (·.podName) = some "xbasic-tikv-0" := by
  refine ⟨ownerPattern_eq (by decide) (by decide), ?_, ?_, rfl⟩
  · have hl : Lang (ownerItems "basic" "default")
        (canonicalAddress "basic" "default" "0" "20160").data :=
      lang_canonicalAddress (by decide) (by decide) (by decide) (by decide)
    exact (find_iff _ _).mpr ⟨['x'], _, [], rfl, hl⟩
  · rintro ⟨d, p, -, -, h⟩
    have := congrArg (fun s : String => s.data.head?) h
    simp [canonicalAddress] at this

/-! ## Transition times -/

/-- Every transition time `Stores` records is at most `t`. -/
def TransitionsBy (t : Nat) (tc : TikvCluster) : Prop :=
  ∀ k r, tc.status.tikv.stores.lookup k = some r → r.lastTransitionTime ≤ t

/-- A kept store's transition time is carried from the previous map or is the current time. -/
theorem carriedRecord_transition_le {previousStores : GoMap TiKVStore} {t now : Nat}
    (hprev : ∀ k r, previousStores.lookup k = some r → r.lastTransitionTime ≤ t) (ht : t ≤ now)
    (s : TiKVStore) : (carriedRecord previousStores now s).lastTransitionTime ≤ now := by
  unfold carriedRecord
  cases h : previousStores.lookup s.id with
  | none => exact le_refl now
  | some old =>
    by_cases hs : s.state = old.state
    · simpa [hs] using (hprev _ _ h).trans ht
    · simp [hs]

theorem syncTikvClusterStatus_transitionsBy (env : Env) (set : Option StatefulSet) (w : World)
    {t : Nat} (h : TransitionsBy t w.tc) (ht : t ≤ env.now) :
    TransitionsBy env.now (outcomeWorld (syncTikvClusterStatus env set w)).tc := by
  intro k r hr
  rcases syncTikvClusterStatus_stores env set w with hs | ⟨infos, hs⟩
  · rw [hs] at hr
    exact (h k r hr).trans ht
  · rw [hs, lookup_foldl_syncStore] at hr
    obtain ⟨s, -, rfl⟩ := Option.map_eq_some'.mp hr
    exact carriedRecord_transition_le h ht s

/-- Over every run whose clock never goes back, starting no earlier than every transition time
recorded in `Stores`, each state records no transition later than the clock of the cycle that
produced it. -/
theorem statusRun_transitionsBy (w : World) (cycles : List (Env × Option StatefulSet)) {t : Nat}
    (h : TransitionsBy t w.tc) (hclock : (cycles.map (·.1.now)).Chain (· ≤ ·) t) :
    List.Forall₂ (fun w' c => TransitionsBy c.1.now w'.tc) (statusRun w cycles) cycles := by
  induction cycles generalizing w t with
  | nil => exact .nil
  | cons c cycles ih =>
    obtain ⟨env, set⟩ := c
    obtain ⟨ht, hrest⟩ := List.chain_cons.mp hclock
    have h' := syncTikvClusterStatus_transitionsBy env set w h ht
    exact .cons h' (ih _ h' hrest)

/-- A run from an empty status at times 5 and 7. -/
theorem statusRun_transitionsBy_clock :
    let env (now : Nat) : Env := { (default : Env) with
      pods := fun _ => .ok [], tombStoneStores := .ok [], now := now,
      stores := .ok [⟨some ⟨1, "basic-tikv-0.basic-tikv-peer.default.svc:20160", "Up", []⟩,
        some ⟨0, 5⟩⟩] }
    let cycles := [(env 5, some default), (env 7, some default)]
    TransitionsBy 0 (default : World).tc ∧ (cycles.map (·.1.now)).Chain (· ≤ ·) 0 ∧
      List.Forall₂ (fun w' c => TransitionsBy c.1.now w'.tc) (statusRun default cycles) cycles := by
  intro env cycles
  have h : TransitionsBy 0 (default : World).tc := fun _ _ hr => by cases hr
  have hclock : (cycles.map (·.1.now)).Chain (· ≤ ·) 0 :=
    .cons (Nat.zero_le 5) (.cons (by decide) .nil)
  exact ⟨h, hclock, statusRun_transitionsBy default cycles h hclock⟩

end TikvOperator
