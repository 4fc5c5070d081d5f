import TikvOperator.Labels
import TikvOperator.Service
import TikvOperator.Workload

/-!
# The reconcile cycle

`sync` is the member manager's `Sync`: it waits for PD, syncs the TiKV StatefulSet
(`syncStatefulSetForTikvCluster`), then the Services. The StatefulSet sync mirrors the observed
StatefulSet into the status, stops there when the cluster is paused, and otherwise writes the
ConfigMap, recovers failed stores, synthesises the desired StatefulSet, and either creates it or,
when it exists, pushes store labels and drives the upgrade, scale and failover collaborators
before updating it. Every step short-circuits the rest on an error.

## Main results

* `sync_paused`: a paused cluster's cycle writes nothing; its only effect is the status sync.
* `syncStatefulSetForTikvCluster_storage_request_error`: a storage request that does not parse
  fails the cycle, after at most the ConfigMap upsert and the recovery.
* `labels_failure_stops_rollout`: when the label step fails, the StatefulSet sync fails
  before the upgrade, scale, failover and update steps.
* `sync_statefulSet_writes_observed`: the cycle creates the StatefulSet only on the lister's
  not-found answer, and updates it or calls the rollout collaborators only when the lister returned
  it.
* `sync_pods_error_skips_services`: a failed pod listing skips every Service, the peer Service
  included.
* `prepareStatefulSet_mounts_written`: the desired StatefulSet mounts the ConfigMap the cycle
  wrote.
* `getNewTiKVSetForTikvCluster_own_stores`: the stores of the desired StatefulSet's own pods pass
  the ownership check and are traced back to their pods.
-/

namespace TikvOperator

open Regexp

/-- The StatefulSet lister's answer, `none` when it is not found. -/
def observeStatefulSet (env : Env) : SyncM (Option StatefulSet) :=
  match env.statefulSet with
  | .ok set => pure (some set)
  | .error e => if e.isNotFound then pure none else throw e

/-- `tkmm.tikvFailover.Recover(tc)`, called when failure stores are recorded. -/
def recoverFailureStores (env : Env) : SyncM Unit := do
  let tc ← getTc
  if tc.status.tikv.failureStores.entries.length > 0 then
    call .recover (.ok (env.recover tc, ()))

/-- The steps between the pause check and the existence test: the ConfigMap sync, the recovery of
failed stores, and the synthesis of the desired StatefulSet. -/
def prepareStatefulSet (env : Env) (oldSet : Option StatefulSet) : SyncM StatefulSet := do
  let cm ← syncTiKVConfigMap env oldSet
  recoverFailureStores env
  let tc ← getTc
  read (getNewTiKVSetForTikvCluster env.helpers tc cm)

/-- The path of a StatefulSet that does not exist: create it annotated, and record an empty
StatefulSet status. -/
def createStatefulSet (env : Env) (newSet : StatefulSet) : SyncM Unit := do
  let newSet := setStatefulSetLastAppliedConfigAnnotation env.helpers newSet
  emit (.createStatefulSet newSet) (env.createStatefulSet newSet)
  modifyTiKV fun s => { s with statefulSet := some default }

/-- `tkmm.tikvUpgrader.Upgrade(tc, oldSet, newSet)`, called when the template changed or an
upgrade is under way. -/
def upgradeTiKV (env : Env) (newSet oldSet : StatefulSet) : SyncM StatefulSet := do
  let tc ← getTc
  if !env.helpers.templateEqual newSet oldSet || tc.status.tikv.phase = upgradePhase then
    call .upgrade (env.upgrade tc oldSet newSet)
  else pure newSet

/-- `tkmm.tikvFailover.Failover(tc)`, called when automatic failover is on, the cluster bounds
the failovers, and some started pod's store is not ready. -/
def failoverTiKV (env : Env) : SyncM Unit := do
  let tc ← getTc
  if env.autoFailover && tc.spec.tikv.maxFailoverCount.isSome then
    if env.helpers.tikvAllPodsStarted tc && !env.helpers.tikvAllStoresReady tc then
      call .failover ((env.failover tc).map fun status => (status, ()))

/-- The steps after the label push: upgrade, scale, fail over, and update the StatefulSet. -/
def rolloutStatefulSet (env : Env) (newSet oldSet : StatefulSet) : SyncM Unit := do
  let newSet ← upgradeTiKV env newSet oldSet
  let tc ← getTc
  let newSet ← call .scale (env.scale tc oldSet newSet)
  failoverTiKV env
  updateStatefulSet env newSet oldSet

/-- The existence test: create a StatefulSet that does not exist; for one that does, push the
store labels, then roll out. -/
def applyStatefulSet (env : Env) : Option StatefulSet → StatefulSet → SyncM Unit
  | none, newSet => createStatefulSet env newSet
  | some oldSet, newSet => do
    let _ ← setStoreLabelsForTiKV env
    rolloutStatefulSet env newSet oldSet

/-- `syncStatefulSetForTikvCluster(tc)`. -/
def syncStatefulSetForTikvCluster (env : Env) : SyncM Unit := do
  let oldSet ← observeStatefulSet env
  syncTikvClusterStatus env oldSet
  let tc ← getTc
  if tc.spec.paused then pure ()
  else
    let newSet ← prepareStatefulSet env oldSet
    applyStatefulSet env oldSet newSet

/-- The error `Sync` returns while PD is not available. -/
def waitingForPD (tc : TikvCluster) : Error :=
  .requeue ("TikvCluster: [" ++ tc.ns ++ "/" ++ tc.name ++ "], waiting for PD cluster running")

/-- The Service part of `Sync`: the NodePort Services of the external listeners, then the peer
Service, synced in that order. -/
def syncTikvServices (env : Env) : SyncM Unit := do
  let tc ← getTc
  let svcList ← read (externalServices env tc (tc.spec.tikv.externalListeners.getD []))
  syncServices env
    (svcList ++ [getNewServiceForTikvCluster env.helpers tc (peerSvcConfig env.helpers)])

/-- `Sync(tc)`. -/
def sync (env : Env) : SyncM Unit := do
  let tc ← getTc
  if !env.helpers.pdIsAvailable tc then throw (waitingForPD tc)
  syncStatefulSetForTikvCluster env
  syncTikvServices env

/-! ## The steps -/

/-- A call of the upgrade, scale or failover collaborator, or a StatefulSet update. -/
def Action.isRollout : Action → Bool
  | .upgrade | .scale | .failover | .updateStatefulSet _ => true
  | _ => false

def Action.isCreateStatefulSet : Action → Bool
  | .createStatefulSet _ => true
  | _ => false

section Steps

variable (env : Env) (w : World)

theorem observeStatefulSet_run :
    observeStatefulSet env w = match env.statefulSet with
      | .ok set => .ok (some set) w
      | .error e => if e.isNotFound then .ok none w else .error e w := by
  unfold observeStatefulSet
  cases env.statefulSet with
  | ok set => rfl
  | error e => by_cases h : e.isNotFound <;> simp [h]

theorem observeStatefulSet_world : outcomeWorld (observeStatefulSet env w) = w := by
  rw [observeStatefulSet_run]
  split
  · rfl
  · split <;> rfl

theorem recoverFailureStores_confined : Confined (· = .recover) (recoverFailureStores env) :=
  Confined.bind Confined.getTc fun _ => by
    split
    · exact Confined.call (by rfl) _
    · exact Confined.pure ()

theorem recoverFailureStores_ok : ∃ w', recoverFailureStores env w = .ok () w' := by
  simp only [recoverFailureStores, bind_run, getTc_run]
  split <;> simp [call_run]

theorem syncTiKVConfigMap_follows (set : Option StatefulSet) :
    World.Follows (fun a => a.isConfigMapUpsert ∧ w.tc.spec.tikv.config.isSome) w
      (outcomeWorld (syncTiKVConfigMap env set w)) := by
  obtain ⟨acts, hw, -, hacts, hnone⟩ := syncTiKVConfigMap_writes env set w
  refine ⟨by rw [hw], acts, by rw [hw], fun a ha => ⟨hacts a ha, ?_⟩⟩
  cases hc : w.tc.spec.tikv.config
  · simp [hnone hc] at ha
  · rfl

/-- The preparation writes at most the ConfigMap, only when the cluster sets a config, and calls
at most the recovery. -/
theorem prepareStatefulSet_follows (oldSet : Option StatefulSet) :
    World.Follows (fun a => (a.isConfigMapUpsert ∧ w.tc.spec.tikv.config.isSome) ∨ a = .recover)
      w (outcomeWorld (prepareStatefulSet env oldSet w)) := by
  unfold prepareStatefulSet
  have h1 := syncTiKVConfigMap_follows env w oldSet
  cases hr : syncTiKVConfigMap env oldSet w with
  | error e w1 => rw [hr] at h1; rw [bind_error hr]; exact h1.mono fun a ha => Or.inl ha
  | ok cm w1 =>
    rw [hr] at h1
    obtain ⟨w2, h2⟩ := recoverFailureStores_ok env w1
    have f2 := recoverFailureStores_confined env w1
    rw [h2] at f2
    rw [bind_ok hr, bind_ok h2, bind_ok (getTc_run w2)]
    cases getNewTiKVSetForTikvCluster env.helpers w2.tc cm <;>
      exact (h1.mono fun a ha => Or.inl ha).trans (f2.mono fun a ha => Or.inr ha)

/-- A storage request that does not parse fails the preparation. -/
theorem prepareStatefulSet_error {err : String} (oldSet : Option StatefulSet)
    (hparse : env.helpers.parseStorageRequest w.tc.spec.tikv.resources.requests = .error err) :
    isError (prepareStatefulSet env oldSet w) = true := by
  unfold prepareStatefulSet
  have h1 := syncTiKVConfigMap_follows env w oldSet
  cases hr : syncTiKVConfigMap env oldSet w with
  | error e w1 => rw [bind_error hr]; rfl
  | ok cm w1 =>
    rw [hr] at h1
    obtain ⟨w2, h2⟩ := recoverFailureStores_ok env w1
    have f2 := recoverFailureStores_confined env w1
    rw [h2] at f2
    rw [bind_ok hr, bind_ok h2, bind_ok (getTc_run w2)]
    have hspec : w2.tc.spec = w.tc.spec := f2.spec.trans h1.spec
    have he := (getNewTiKVSetForTikvCluster_error env.helpers w2.tc cm _).mpr
      ⟨err, by rw [hspec]; exact hparse, rfl⟩
    simp [he]

theorem createStatefulSet_confined (newSet : StatefulSet) :
    Confined
      (· = (.createStatefulSet <| setStatefulSetLastAppliedConfigAnnotation env.helpers newSet))
      (createStatefulSet env newSet) :=
  Confined.bind (Confined.emit (by rfl) _) fun _ => Confined.modifyTiKV _

section Rollout

variable (newSet oldSet : StatefulSet)

theorem upgradeTiKV_confined :
    Confined (fun a => a.isRollout = true) (upgradeTiKV env newSet oldSet) :=
  Confined.bind Confined.getTc fun _ => by
    split
    · exact Confined.call (by rfl) _
    · exact Confined.pure _

theorem failoverTiKV_confined : Confined (fun a => a.isRollout = true) (failoverTiKV env) :=
  Confined.bind Confined.getTc fun _ => by
    split
    · split
      · exact Confined.call (by rfl) _
      · exact Confined.pure ()
    · exact Confined.pure ()

theorem updateStatefulSet_confined :
    Confined (fun a => a.isRollout = true) (updateStatefulSet env newSet oldSet) := by
  unfold updateStatefulSet
  split
  · exact Confined.pure ()
  · exact Confined.emit (by rfl) _

/-- The rollout only calls the upgrade, scale and failover collaborators and updates the
StatefulSet. -/
theorem rolloutStatefulSet_confined :
    Confined (fun a => a.isRollout = true) (rolloutStatefulSet env newSet oldSet) :=
  Confined.bind (upgradeTiKV_confined env newSet oldSet) fun newSet =>
    Confined.bind Confined.getTc fun _ => Confined.bind (Confined.call (by rfl) _) fun newSet =>
      Confined.bind (failoverTiKV_confined env) fun _ =>
        updateStatefulSet_confined env newSet oldSet

end Rollout

theorem statusSync_confined :
    Confined (fun _ => False) (observeStatefulSet env >>= syncTikvClusterStatus env) :=
  Confined.bind (fun w => by rw [observeStatefulSet_world]; exact .refl _ w)
    (syncTikvClusterStatus_confined env)

/-- The StatefulSet sync up to the pause check: it fails in the observation or the status sync,
or, having observed `oldSet` and synced the status into `w1`, it returns for a paused cluster and
goes on with the preparation otherwise. -/
theorem syncStatefulSetForTikvCluster_cases :
    (isError ((observeStatefulSet env >>= syncTikvClusterStatus env) w) = true ∧
      syncStatefulSetForTikvCluster env w =
        (observeStatefulSet env >>= syncTikvClusterStatus env) w) ∨
    ∃ oldSet w1, observeStatefulSet env w = .ok oldSet w ∧
      syncTikvClusterStatus env oldSet w = .ok () w1 ∧
      syncStatefulSetForTikvCluster env w = if w.tc.spec.paused then .ok () w1
        else (prepareStatefulSet env oldSet >>= applyStatefulSet env oldSet) w1 := by
  unfold syncStatefulSetForTikvCluster
  have h0 := observeStatefulSet_world env w
  cases hr0 : observeStatefulSet env w with
  | error e w1 => exact .inl ⟨by rw [bind_error hr0]; rfl, by rw [bind_error hr0, bind_error hr0]⟩
  | ok oldSet w1 =>
    rw [hr0, outcomeWorld_ok] at h0
    subst h0
    cases hr : syncTikvClusterStatus env oldSet w1 with
    | error e w2 =>
      exact .inl ⟨by rw [bind_ok hr0, hr]; rfl, by rw [bind_ok hr0, bind_ok hr0, bind_error hr, hr]⟩
    | ok u w2 =>
      have hf := syncTikvClusterStatus_confined env oldSet w1
      rw [hr, outcomeWorld_ok] at hf
      refine .inr ⟨oldSet, w2, rfl, hr, ?_⟩
      rw [bind_ok hr0, bind_ok hr, bind_ok (getTc_run w2), hf.spec]
      split <;> rfl

end Steps

/-! ## A paused cluster -/

theorem syncStatefulSetForTikvCluster_paused (env : Env) (w : World)
    (hpaused : w.tc.spec.paused = true) :
    syncStatefulSetForTikvCluster env w =
      (observeStatefulSet env >>= syncTikvClusterStatus env) w := by
  rcases syncStatefulSetForTikvCluster_cases env w with ⟨-, h⟩ | ⟨oldSet, w1, h0, h1, h⟩
  · exact h
  · rw [h, if_pos hpaused, bind_ok h0, h1]

/-- Observing the StatefulSet and syncing the status changes only the TiKV part of the status. -/
theorem statusSync_frame (env : Env) (w : World) :
    outcomeWorld ((observeStatefulSet env >>= syncTikvClusterStatus env) w) = { w with
      tc.status.tikv := (outcomeWorld
        ((observeStatefulSet env >>= syncTikvClusterStatus env) w)).tc.status.tikv } := by
  have h0 := observeStatefulSet_world env w
  cases hr0 : observeStatefulSet env w with
  | error e w1 => rw [hr0, outcomeWorld_error] at h0; subst h0; rw [bind_error hr0]; rfl
  | ok oldSet w1 =>
    rw [hr0, outcomeWorld_ok] at h0
    subst h0
    rw [bind_ok hr0]
    exact syncTikvClusterStatus_frame env oldSet w1

theorem syncTikvServices_paused (env : Env) (w : World) (hpaused : w.tc.spec.paused = true) :
    outcomeWorld (syncTikvServices env w) = w := by
  simp only [syncTikvServices, bind_run, getTc_run]
  cases externalServices env w.tc (w.tc.spec.tikv.externalListeners.getD []) with
  | error e => rfl
  | ok svcs => simp [syncServices_paused env w _ hpaused]

theorem syncServices_confined (env : Env) (svcs : List Service) :
    Confined (fun a => a.isServiceWrite = true) (syncServices env svcs) := fun w => by
  obtain ⟨acts, hw, -, hall⟩ := syncServices_writes env w svcs
  exact ⟨by rw [hw], acts, by rw [hw], hall⟩

theorem syncTikvServices_confined (env : Env) :
    Confined (fun a => a.isServiceWrite = true) (syncTikvServices env) :=
  Confined.bind Confined.getTc fun _ => Confined.bind (Confined.read _) fun _ =>
    syncServices_confined env _

theorem sync_run (env : Env) (w : World) (hpd : env.helpers.pdIsAvailable w.tc = true) :
    sync env w = (syncStatefulSetForTikvCluster env >>= fun _ => syncTikvServices env) w := by
  simp [sync, hpd]

/-- The cycle of a paused cluster whose PD is available ends where the status sync ends: it
writes nothing and calls no collaborator, whatever it observes, and changes only the TiKV part of
the cluster's status. -/
theorem sync_paused (env : Env) (w : World) (hpd : env.helpers.pdIsAvailable w.tc = true)
    (hpaused : w.tc.spec.paused = true) :
    outcomeWorld (sync env w) =
        outcomeWorld ((observeStatefulSet env >>= syncTikvClusterStatus env) w) ∧
      (outcomeWorld (sync env w)).log = w.log ∧
      (outcomeWorld (sync env w)).tc =
        { w.tc with status.tikv := (outcomeWorld (sync env w)).tc.status.tikv } := by
  have hsame : outcomeWorld (sync env w) =
      outcomeWorld ((observeStatefulSet env >>= syncTikvClusterStatus env) w) := by
    rw [sync_run env w hpd, ← syncStatefulSetForTikvCluster_paused env w hpaused]
    have hf := statusSync_frame env w
    rw [← syncStatefulSetForTikvCluster_paused env w hpaused] at hf
    cases hr : syncStatefulSetForTikvCluster env w with
    | error e w1 => rw [bind_error hr]
    | ok u w1 =>
      rw [hr, outcomeWorld_ok] at hf
      have hp : w1.tc.spec.paused = true := by rw [hf]; exact hpaused
      rw [bind_ok hr, outcomeWorld_ok, syncTikvServices_paused env w1 hp]
  have hf := statusSync_frame env w
  rw [← hsame] at hf
  exact ⟨hsame, by rw [hf], by rw [hf]⟩

/-- A paused cluster whose StatefulSet is listed: the cycle passes the status sync, which records
the listed store, and ends without error or write. -/
theorem sync_paused_listed_set :
    let env : Env := { (default : Env) with
      helpers.pdIsAvailable := fun _ => true
      statefulSet := .ok default, pods := fun _ => .ok [], tombStoneStores := .ok []
      stores := .ok [⟨some ⟨1, "basic-tikv-0.basic-tikv-peer.default.svc:20160", "Up", []⟩,
        some ⟨0, 5⟩⟩] }
    let w : World := { (default : World) with tc := { (default : TikvCluster) with
      name := "basic", ns := "default", name_valid := by decide, ns_valid := by decide
      spec.paused := true } }
    env.helpers.pdIsAvailable w.tc = true ∧ w.tc.spec.paused = true ∧
      isError (sync env w) = false ∧ (outcomeWorld (sync env w)).tc.status.tikv.synced = true ∧
      (outcomeWorld (sync env w)).tc.status.tikv.stores.keys = ["1"] ∧
      outcomeWorld (sync env w) =
        outcomeWorld ((observeStatefulSet env >>= syncTikvClusterStatus env) w) ∧
      (outcomeWorld (sync env w)).log = w.log ∧
      (outcomeWorld (sync env w)).tc =
        { w.tc with status.tikv := (outcomeWorld (sync env w)).tc.status.tikv } := by
  intro env w
  exact ⟨rfl, rfl, by decide, by decide, by decide, sync_paused env w rfl rfl⟩

/-! ## The Services -/

/-- Pods listed out of ordinal order: the NodePort Service `Sync` creates to select `basic-tikv-0`
is given the host address of the first pod listed, `basic-tikv-1`, and the node port of position
0. `mergeLabels` is `MergeLabels`, in which the later map wins. -/
theorem nodeport_service_misdirected :
    let pod (name hostIP : String) : Pod :=
      { (default : Pod) with meta.name := name, hostIP := hostIP }
    let env : Env := { (default : Env) with
      helpers.pdIsAvailable := fun _ => true
      helpers.parseStorageRequest := fun _ => .ok default
      helpers.mergeLabels := fun a b => b ∪ a
      statefulSet := .error (.notFound "basic-tikv")
      createStatefulSet := fun _ => .ok ()
      pods := fun _ => .ok [pod "basic-tikv-1" "10.0.0.2", pod "basic-tikv-0" "10.0.0.1"]
      service := fun name => .error (.notFound name)
      createService := fun _ => .ok () }
    let w : World := { (default : World) with tc := { (default : TikvCluster) with
      name := "basic", ns := "default", name_valid := by decide, ns_valid := by decide
      spec.tikv.externalListeners := some [⟨"ext", 30000, 20160, serviceTypeNodePort⟩] } }
    (outcomeWorld (sync env w)).log.filterMap (fun
        | .createService svc => some (svc.spec.type, svc.spec.selector.lookup podNameLabelKey,
            svc.spec.externalIPs, svc.spec.ports.map (·.nodePort))
        | _ => none) =
      [(serviceTypeNodePort, some "basic-tikv-0", ["10.0.0.2"], [30000]),
       (serviceTypeNodePort, some "basic-tikv-1", ["10.0.0.1"], [30001]),
       ("", none, [], [0])] := by
  decide

/-! ## Failures before the rollout -/

theorem isRollout_eq_false {a : Action}
    (h : a.isConfigMapUpsert ∨ a.isSetStoreLabels ∨ a = .recover) : a.isRollout = false := by
  cases a <;> simp_all [Action.isConfigMapUpsert, Action.isSetStoreLabels, Action.isRollout]

section Prefix

variable (env : Env) (w : World)

/-- What the StatefulSet sync appends, from what the existence test appends after a successful
preparation: the preparation's ConfigMap upsert and recovery, then the test's actions. -/
theorem syncStatefulSetForTikvCluster_follows {Q : Action → Prop}
    (hQ : ∀ a, (a.isConfigMapUpsert ∧ w.tc.spec.tikv.config.isSome) ∨ a = .recover → Q a)
    (happly : ∀ oldSet newSet w' w'', observeStatefulSet env w = .ok oldSet w →
      World.Follows (fun _ => True) w w' → prepareStatefulSet env oldSet w' = .ok newSet w'' →
      World.Follows Q w'' (outcomeWorld (applyStatefulSet env oldSet newSet w''))) :
    World.Follows Q w (outcomeWorld (syncStatefulSetForTikvCluster env w)) := by
  have f1 := statusSync_confined env w
  rcases syncStatefulSetForTikvCluster_cases env w with ⟨-, h⟩ | ⟨oldSet, w1, h0, h1, h⟩
  · rw [h]; exact f1.mono fun _ h => h.elim
  rw [bind_ok h0, h1, outcomeWorld_ok] at f1
  rw [h]
  split
  · exact f1.mono fun _ h => h.elim
  · have f2 := (prepareStatefulSet_follows env w1 oldSet).mono fun a ha => hQ a (by rwa [← f1.spec])
    cases hr2 : prepareStatefulSet env oldSet w1 with
    | error e w2 =>
      rw [hr2] at f2
      rw [bind_error hr2]
      exact (f1.mono fun _ h => h.elim).trans f2
    | ok newSet w2 =>
      rw [hr2, outcomeWorld_ok] at f2
      rw [bind_ok hr2]
      exact ((f1.mono fun _ h => h.elim).trans f2).trans
        (happly oldSet newSet w1 w2 h0 (f1.mono fun _ _ => trivial) hr2)

/-- The StatefulSet sync of a cluster that is not paused fails when everything after the status
sync fails, from every state that follows the one it starts in. -/
theorem syncStatefulSetForTikvCluster_isError (hpaused : w.tc.spec.paused = false)
    (htail : ∀ oldSet w', observeStatefulSet env w = .ok oldSet w →
      World.Follows (fun _ => True) w w' →
      isError ((prepareStatefulSet env oldSet >>= applyStatefulSet env oldSet) w') = true) :
    isError (syncStatefulSetForTikvCluster env w) = true := by
  rcases syncStatefulSetForTikvCluster_cases env w with ⟨he, h⟩ | ⟨oldSet, w1, h0, h1, h⟩
  · rw [h, he]
  have f1 := statusSync_confined env w
  rw [bind_ok h0, h1, outcomeWorld_ok] at f1
  rw [h, hpaused]
  exact htail oldSet w1 h0 (f1.mono fun _ h => h.elim)

end Prefix

/-- A storage request that does not parse fails the StatefulSet sync of a cluster that is not
paused, whether or not the StatefulSet exists: no StatefulSet is created or updated and no
collaborator but the recovery is called; the only write is the ConfigMap upsert, made when the
cluster sets a TiKV config. -/
theorem syncStatefulSetForTikvCluster_storage_request_error (env : Env) (w : World) {err : String}
    (hparse : env.helpers.parseStorageRequest w.tc.spec.tikv.resources.requests = .error err)
    (hpaused : w.tc.spec.paused = false) :
    isError (syncStatefulSetForTikvCluster env w) = true ∧
      World.Follows (fun a => (a.isConfigMapUpsert ∧ w.tc.spec.tikv.config.isSome) ∨ a = .recover)
        w (outcomeWorld (syncStatefulSetForTikvCluster env w)) := by
  have hprep : ∀ oldSet w', World.Follows (fun _ => True) w w' →
      isError (prepareStatefulSet env oldSet w') = true := fun oldSet w' hf =>
    prepareStatefulSet_error env w' oldSet (by rw [hf.spec]; exact hparse)
  refine ⟨syncStatefulSetForTikvCluster_isError env w hpaused fun oldSet w' _ hf => ?_,
    syncStatefulSetForTikvCluster_follows env w (fun _ h => h) fun oldSet _ w' _ _ hf h => ?_⟩
  · obtain ⟨e, w'', h⟩ := exists_error_of_isError (hprep oldSet w' hf)
    rw [bind_error h]; rfl
  · have := hprep oldSet w' hf
    rw [h] at this
    cases this

theorem syncStatefulSetForTikvCluster_storage_request_error_with_config :
    let env : Env := { (default : Env) with
      helpers.marshalTOML := fun _ => .ok ""
      helpers.renderTiKVStartScript := fun _ => .ok ""
      helpers.parseStorageRequest := fun _ => .error "quantities must match the regular expression"
      statefulSet := .error (.notFound "basic-tikv")
      createOrUpdateConfigMap := fun cm => .ok cm }
    let w : World := { (default : World) with tc.spec.tikv.config := some default }
    env.helpers.parseStorageRequest w.tc.spec.tikv.resources.requests =
        .error "quantities must match the regular expression" ∧ w.tc.spec.paused = false ∧
      isError (syncStatefulSetForTikvCluster env w) = true ∧
      World.Follows (fun a => (a.isConfigMapUpsert ∧ w.tc.spec.tikv.config.isSome) ∨ a = .recover)
        w (outcomeWorld (syncStatefulSetForTikvCluster env w)) := by
  intro env w
  exact ⟨rfl, rfl, syncStatefulSetForTikvCluster_storage_request_error env w rfl rfl⟩

/-- With a TiKV config set, the ConfigMap is upserted before the storage request is parsed. -/
theorem storage_request_error_after_configmap_upsert :
    let env : Env := { (default : Env) with
      helpers.marshalTOML := fun _ => .ok ""
      helpers.renderTiKVStartScript := fun _ => .ok ""
      helpers.parseStorageRequest := fun _ => .error "quantities must match the regular expression"
      statefulSet := .error (.notFound "basic-tikv")
      createOrUpdateConfigMap := fun cm => .ok cm }
    let w : World := { (default : World) with tc.spec.tikv.config := some default }
    isError (syncStatefulSetForTikvCluster env w) = true ∧
      (outcomeWorld (syncStatefulSetForTikvCluster env w)).log.map Action.isConfigMapUpsert =
        [true] := by
  decide

/-! ## A failing label step -/

theorem storeLabelsPlan_congr (env : Env) {tc tc' : TikvCluster} (hname : tc'.name = tc.name)
    (hns : tc'.ns = tc.ns) : storeLabelsPlan env tc' = storeLabelsPlan env tc := by
  simp only [storeLabelsPlan, hname, hns]

/-- Whether the label step fails depends on the cluster's name and namespace only. -/
theorem setStoreLabelsForTiKV_isError_congr (env : Env) {P : Action → Prop} {w w' : World}
    (hf : World.Follows P w w') :
    isError (setStoreLabelsForTiKV env w') = isError (setStoreLabelsForTiKV env w) := by
  rw [(setStoreLabelsForTiKV_outcome env w').1, (setStoreLabelsForTiKV_outcome env w).1,
    storeLabelsPlan_congr env hf.name hf.ns]

theorem applyStatefulSet_labels_error (env : Env) (oldSet : StatefulSet) (newSet : StatefulSet)
    (w : World) (hlabels : isError (setStoreLabelsForTiKV env w) = true) :
    isError (applyStatefulSet env (some oldSet) newSet w) = true ∧
      World.Follows (fun a => a.isRollout = false) w
        (outcomeWorld (applyStatefulSet env (some oldSet) newSet w)) := by
  obtain ⟨e, w', h⟩ := exists_error_of_isError hlabels
  have f := setStoreLabelsForTiKV_confined env w
  rw [h] at f
  simp only [applyStatefulSet]
  rw [bind_error h]
  exact ⟨rfl, f.mono fun a ha => isRollout_eq_false (.inr (.inl ha))⟩

/-- When the label step fails, the StatefulSet sync calls none of the upgrade, scale and failover
collaborators and does not update the StatefulSet; when the StatefulSet exists and the cluster is
not paused, it fails. -/
theorem labels_failure_stops_rollout (env : Env) (w : World)
    (hlabels : isError (setStoreLabelsForTiKV env w) = true) :
    World.Follows (fun a => a.isRollout = false) w
        (outcomeWorld (syncStatefulSetForTikvCluster env w)) ∧
      (env.statefulSet.isOk = true → w.tc.spec.paused = false →
        isError (syncStatefulSetForTikvCluster env w) = true) := by
  have hl : ∀ w', World.Follows (fun _ => True) w w' →
      isError (setStoreLabelsForTiKV env w') = true := fun w' hf => by
    rw [setStoreLabelsForTiKV_isError_congr env hf, hlabels]
  refine ⟨syncStatefulSetForTikvCluster_follows env w
    (fun a ha => isRollout_eq_false (ha.imp (·.1) .inr)) fun oldSet newSet w' w'' _ hf hprep => ?_,
    fun hset hpaused => syncStatefulSetForTikvCluster_isError env w hpaused
      fun oldSet w' hobs hf => ?_⟩
  · have hf' := hf.trans ((prepareStatefulSet_follows env w' oldSet).mono fun _ _ => trivial)
    rw [hprep, outcomeWorld_ok] at hf'
    cases oldSet with
    | none => exact (createStatefulSet_confined env newSet w'').mono fun a ha => by rw [ha]; rfl
    | some oldSet => exact (applyStatefulSet_labels_error env oldSet newSet w'' (hl w'' hf')).2
  · obtain ⟨set, hs⟩ := exists_ok_of_isOk hset
    rw [observeStatefulSet_run, hs] at hobs
    cases hobs
    have hp := prepareStatefulSet_follows env w' (some set)
    cases hr : prepareStatefulSet env (some set) w' with
    | error e w'' => rw [bind_error hr]; rfl
    | ok newSet w'' =>
      rw [hr, outcomeWorld_ok] at hp
      rw [bind_ok hr]
      exact (applyStatefulSet_labels_error env set newSet w''
        (hl w'' (hf.trans (hp.mono fun _ _ => trivial)))).1

/-- The label step fails exactly when `GetStores` or `GetConfig` fails or, with location labels
configured, some owned store with both pointers set names a pod the lister cannot return: node
lookups and `SetStoreLabels` answers never fail it. It requests the labels of the entries before
the first such store, and of none after it. When it fails, the StatefulSet sync rolls nothing
out, and fails when the StatefulSet exists and the cluster is not paused. -/
theorem setStoreLabelsForTiKV_pod_failure (env : Env) (w : World) :
    (isError (setStoreLabelsForTiKV env w) = true ↔
      env.stores.isOk = false ∨ (env.stores.isOk = true ∧ env.config.isOk = false) ∨
      ∃ infos config locationLabels, env.stores = .ok infos ∧ env.config = .ok config ∧
        config.locationLabels = some locationLabels ∧
        ∃ info ∈ infos, podFails env (ownerItems w.tc.name w.tc.ns) info = true) ∧
    (∀ infos config locationLabels, env.stores = .ok infos → env.config = .ok config →
      config.locationLabels = some locationLabels →
      (outcomeWorld (setStoreLabelsForTiKV env w)).log =
        w.log ++ labelUpdates env (ownerItems w.tc.name w.tc.ns) locationLabels infos) ∧
    (isError (setStoreLabelsForTiKV env w) = true →
      World.Follows (fun a => a.isRollout = false) w
          (outcomeWorld (syncStatefulSetForTikvCluster env w)) ∧
        (env.statefulSet.isOk = true → w.tc.spec.paused = false →
          isError (syncStatefulSetForTikvCluster env w) = true)) := by
  refine ⟨?_, fun infos config locationLabels hs hc hl => ?_, labels_failure_stops_rollout env w⟩
  · rw [(setStoreLabelsForTiKV_outcome env w).1]
    unfold storeLabelsPlan
    cases env.stores <;> cases env.config <;> simp [Except.isOk, Except.toBool]
    split <;> simp_all
  · rw [(setStoreLabelsForTiKV_outcome env w).2]
    simp [storeLabelsPlan, hs, hc, hl]

/-- A store whose pod is not found stops the StatefulSet sync before the upgrade it would
otherwise drive: with the pod found, the differing template makes the cycle call the upgrader. -/
theorem store_pod_not_found_skips_upgrade :
    let store : StoreInfo :=
      ⟨some ⟨1, "basic-tikv-0.basic-tikv-peer.default.svc:20160", "Up", []⟩, some ⟨0, 0⟩⟩
    let env (pod : String → Except Error Pod) : Env := { (default : Env) with
      helpers.parseStorageRequest := fun _ => .ok default
      statefulSet := .ok default, pods := fun _ => .ok [], stores := .ok [store]
      tombStoneStores := .ok [], config := .ok ⟨some ["zone"]⟩, pod := pod }
    let w : World := { (default : World) with tc := { (default : TikvCluster) with
      name := "basic", ns := "default", name_valid := by decide, ns_valid := by decide } }
    isError (syncStatefulSetForTikvCluster (env fun _ => .error (.notFound "basic-tikv-0")) w) =
        true ∧
      (outcomeWorld (syncStatefulSetForTikvCluster (env fun _ => .error (.notFound "basic-tikv-0"))
        w)).log.any Action.isRollout = false ∧
      (outcomeWorld (syncStatefulSetForTikvCluster (env fun _ => .ok default) w)).log.any
        Action.isRollout = true := by
  decide

/-! ## What the StatefulSet writes rest on -/

/-- What a write of the cycle rests on: a StatefulSet creation on the lister's not-found answer,
an update or a collaborator call on the StatefulSet the lister returned. -/
def ObservedWrite (env : Env) (a : Action) : Prop :=
  (a.isCreateStatefulSet = true → ∃ e, env.statefulSet = .error e ∧ e.isNotFound = true) ∧
    (a.isRollout = true → env.statefulSet.isOk = true)

section Observed

variable (env : Env) {w w' : World}

/-- A ConfigMap upsert, the recovery, a label push or a Service write rests on nothing. -/
theorem observedWrite_of_other {a : Action}
    (h : a.isConfigMapUpsert ∨ a = .recover ∨ a.isSetStoreLabels ∨ a.isServiceWrite) :
    ObservedWrite env a := by
  cases a <;> simp_all [ObservedWrite, Action.isConfigMapUpsert, Action.isSetStoreLabels,
    Action.isServiceWrite, Action.isCreateStatefulSet, Action.isRollout]

theorem observedWrite_of_isRollout {a : Action} (hset : env.statefulSet.isOk = true)
    (h : a.isRollout = true) : ObservedWrite env a :=
  ⟨fun hc => by cases a <;> simp_all [Action.isRollout, Action.isCreateStatefulSet], fun _ => hset⟩

theorem observeStatefulSet_none (h : observeStatefulSet env w = .ok none w') :
    ∃ e, env.statefulSet = .error e ∧ e.isNotFound = true := by
  rw [observeStatefulSet_run] at h
  cases hs : env.statefulSet with
  | ok set => simp [hs] at h
  | error e => by_cases hn : e.isNotFound <;> simp_all

theorem observeStatefulSet_some {set : StatefulSet}
    (h : observeStatefulSet env w = .ok (some set) w') : env.statefulSet = .ok set := by
  rw [observeStatefulSet_run] at h
  cases hs : env.statefulSet with
  | ok set' => simp_all
  | error e => by_cases hn : e.isNotFound <;> simp_all

/-- The existence test acts on what the lister answered: it creates the StatefulSet after a
not-found answer, and pushes labels and rolls out after the lister returned it. -/
theorem applyStatefulSet_observed {oldSet : Option StatefulSet}
    (hobs : observeStatefulSet env w = .ok oldSet w) (newSet : StatefulSet) :
    Confined (ObservedWrite env) (applyStatefulSet env oldSet newSet) := by
  cases oldSet with
  | none =>
    obtain ⟨e, hs, hn⟩ := observeStatefulSet_none env hobs
    exact (createStatefulSet_confined env newSet).mono fun _ ha =>
      ⟨fun _ => ⟨e, hs, hn⟩, fun h => by rw [ha] at h; cases h⟩
  | some set =>
    have hset : env.statefulSet.isOk = true := by rw [observeStatefulSet_some env hobs]; rfl
    exact Confined.bind
      ((setStoreLabelsForTiKV_confined env).mono fun _ ha =>
        observedWrite_of_other env (.inr (.inr (.inl ha))))
      fun _ => (rolloutStatefulSet_confined env newSet set).mono fun _ ha =>
        observedWrite_of_isRollout env hset ha

theorem syncStatefulSetForTikvCluster_observed :
    Confined (ObservedWrite env) (syncStatefulSetForTikvCluster env) := fun w =>
  syncStatefulSetForTikvCluster_follows env w
    (fun _ ha => observedWrite_of_other env (ha.imp (·.1) .inl))
    fun _ newSet _ w'' hobs _ _ => applyStatefulSet_observed env hobs newSet w''

end Observed

/-- Every cycle keeps the cluster's name, namespace and spec and only appends to the log, and its
StatefulSet writes rest on what the lister answered: it creates the StatefulSet only after a
not-found answer, and updates it or calls the upgrade, scale or failover collaborators only after
the lister returned it. -/
theorem sync_statefulSet_writes_observed (env : Env) (w : World) :
    World.Follows (ObservedWrite env) w (outcomeWorld (sync env w)) := by
  by_cases hpd : env.helpers.pdIsAvailable w.tc = true
  · rw [sync_run env w hpd]
    have h1 := syncStatefulSetForTikvCluster_observed env w
    cases hr : syncStatefulSetForTikvCluster env w with
    | error e w1 => rw [hr] at h1; rw [bind_error hr]; exact h1
    | ok u w1 =>
      rw [hr, outcomeWorld_ok] at h1
      rw [bind_ok hr]
      exact h1.trans ((syncTikvServices_confined env w1).mono fun a ha =>
        observedWrite_of_other env (.inr (.inr (.inr ha))))
  · rw [show sync env w = .error (waitingForPD w.tc) w by simp [sync, hpd]]
    exact .refl _ w

/-! ## A failed pod listing -/

/-- When a listener uses NodePort and the pod listing fails, `Sync` fails with the listing's error
as soon as the StatefulSet sync returns: no Service is synced, the peer Service included. -/
theorem sync_pods_error_skips_services (env : Env) (w : World) {e : Error}
    (hpd : env.helpers.pdIsAvailable w.tc = true)
    (hsts : isError (syncStatefulSetForTikvCluster env w) = false)
    (hpods : env.pods w.tc.name = .error e)
    (hnode : ∃ l ∈ w.tc.spec.tikv.externalListeners.getD [], l.accessMethod = serviceTypeNodePort) :
    sync env w = .error e (outcomeWorld (syncStatefulSetForTikvCluster env w)) := by
  have hf := syncStatefulSetForTikvCluster_observed env w
  cases hr : syncStatefulSetForTikvCluster env w with
  | error e' w1 => rw [hr] at hsts; cases hsts
  | ok u w1 =>
    rw [hr, outcomeWorld_ok] at hf
    rw [sync_run env w hpd, bind_ok hr, outcomeWorld_ok]
    simp only [syncTikvServices, bind_run, getTc_run]
    rw [externalServices_error env w1.tc (by rw [hf.name]; exact hpods) _
      (by rw [hf.spec]; exact hnode)]
    rfl

theorem sync_pods_error_skips_services_paused :
    let env : Env := { (default : Env) with
      helpers.pdIsAvailable := fun _ => true
      statefulSet := .error (.notFound "basic-tikv")
      pods := fun _ => .error (.api "pods is forbidden") }
    let w : World := { (default : World) with
      tc.spec.paused := true
      tc.spec.tikv.externalListeners := some [⟨"ext", 30000, 20160, serviceTypeNodePort⟩] }
    env.helpers.pdIsAvailable w.tc = true ∧ isError (syncStatefulSetForTikvCluster env w) = false ∧
      env.pods w.tc.name = .error (.api "pods is forbidden") ∧
      (∃ l ∈ w.tc.spec.tikv.externalListeners.getD [], l.accessMethod = serviceTypeNodePort) ∧
      sync env w =
        .error (.api "pods is forbidden") (outcomeWorld (syncStatefulSetForTikvCluster env w)) := by
  intro env w
  have hsts : isError (syncStatefulSetForTikvCluster env w) = false := by decide
  have hnode : ∃ l ∈ w.tc.spec.tikv.externalListeners.getD [],
      l.accessMethod = serviceTypeNodePort := ⟨_, List.mem_singleton_self _, rfl⟩
  exact ⟨rfl, hsts, rfl, hnode, sync_pods_error_skips_services env w rfl hsts rfl hnode⟩

/-! ## The ConfigMap the desired StatefulSet mounts -/

/-- The desired StatefulSet mounts the ConfigMap the preparation wrote, provided the upsert answers
with an object of the name it was asked to write. With no TiKV config, the only action logged is
the recovery call, so no ConfigMap is upserted, and the member ConfigMap is mounted. With one, the preparation first logs the upsert of a ConfigMap
and the config and startup-script volumes project it; with `InPlace` updates and an observed StatefulSet
that mounts one of the cluster's ConfigMaps, that ConfigMap is the mounted one, so the volumes
keep their source. -/
theorem prepareStatefulSet_mounts_written (env : Env) (oldSet : Option StatefulSet) {w w' : World}
    {newSet : StatefulSet}
    (hname : ∀ cm cm', env.createOrUpdateConfigMap cm = .ok cm' → cm'.meta.name = cm.meta.name)
    (hrun : prepareStatefulSet env oldSet w = .ok newSet w') :
    (w.tc.spec.tikv.config = none →
      (∀ a ∈ w'.log.drop w.log.length, a = .recover) ∧
      MountsConfigMap newSet (env.helpers.memberConfigMapName w'.tc)) ∧
    (w.tc.spec.tikv.config.isSome → ∃ cm,
      (w'.log.drop w.log.length).head? = some (.createOrUpdateConfigMap cm) ∧
      MountsConfigMap newSet cm.meta.name ∧
      ∀ set, oldSet = some set →
        w.tc.baseTiKVSpec.configUpdateStrategy = configUpdateStrategyInPlace →
        let inUseName := env.helpers.findConfigMapVolume set.spec.template.spec
          fun name => name.startsWith (tikvMemberName w.tc.name)
        inUseName ≠ "" → cm.meta.name = inUseName) := by
  have hnone : w.tc.spec.tikv.config = none →
      ∀ a ∈ w'.log.drop w.log.length, a = .recover := fun hc a ha => by
    obtain ⟨-, acts, hlog, hacts⟩ := prepareStatefulSet_follows env w oldSet
    rw [hrun, outcomeWorld_ok] at hlog
    rw [hlog, List.drop_left] at ha
    exact (hacts a ha).resolve_left fun ⟨_, h⟩ => by simp [hc] at h
  unfold prepareStatefulSet at hrun
  cases hr : syncTiKVConfigMap env oldSet w with
  | error e w1 => rw [bind_error hr] at hrun; cases hrun
  | ok cm w1 =>
    obtain ⟨w2, h2⟩ := recoverFailureStores_ok env w1
    have f2 := recoverFailureStores_confined env w1
    rw [h2, outcomeWorld_ok] at f2
    rw [bind_ok hr, bind_ok h2, bind_ok (getTc_run w2)] at hrun
    cases hs : getNewTiKVSetForTikvCluster env.helpers w2.tc cm with
    | error e => rw [hs, read_error_run] at hrun; cases hrun
    | ok set =>
      rw [hs, read_ok_run] at hrun
      cases hrun
      have hm := getNewTiKVSetForTikvCluster_mounts env.helpers _ cm hs
      rcases syncTiKVConfigMap_ok env oldSet hr with
        ⟨hc, rfl, rfl⟩ | ⟨newCm, cm', hget, hup, rfl, rfl⟩
      · exact ⟨fun hc => ⟨hnone hc, hm⟩, fun h => by simp [hc] at h⟩
      · have hc : w.tc.spec.tikv.config ≠ none := fun hc => by
          simp [getTikVConfigMap, hc, pure, Except.pure] at hget
        refine ⟨fun h => absurd h hc, fun _ => ⟨_, ?_, by rw [← hname _ _ hup]; exact hm,
          fun set hset hstr hin => ?_⟩⟩
        · obtain ⟨acts, hlog, -⟩ := f2.2
          simp [hlog]
        · cases hset
          exact configMapToWrite_inPlace env.helpers w.tc set newCm hstr hin

/-- A cluster with a config, `InPlace` updates and an observed StatefulSet that mounts
`basic-tikv-3731`: the preparation writes its ConfigMap under that name and mounts it. -/
theorem prepareStatefulSet_mounts_in_use :
    let env : Env := { (default : Env) with
      helpers.marshalTOML := fun _ => .ok ""
      helpers.renderTiKVStartScript := fun _ => .ok ""
      helpers.parseStorageRequest := fun _ => .ok default
      helpers.findConfigMapVolume := fun _ _ => "basic-tikv-3731"
      createOrUpdateConfigMap := fun cm => .ok cm }
    let w : World := { (default : World) with tc.spec.tikv.config := some default }
    (∀ cm cm', env.createOrUpdateConfigMap cm = .ok cm' → cm'.meta.name = cm.meta.name) ∧
    ∃ newSet w', prepareStatefulSet env (some default) w = .ok newSet w' ∧
      (w.tc.spec.tikv.config = none →
        (∀ a ∈ w'.log.drop w.log.length, a = .recover) ∧
        MountsConfigMap newSet (env.helpers.memberConfigMapName w'.tc)) ∧
      (w.tc.spec.tikv.config.isSome → ∃ cm,
        (w'.log.drop w.log.length).head? = some (.createOrUpdateConfigMap cm) ∧
        MountsConfigMap newSet cm.meta.name ∧
        ∀ set : StatefulSet, some default = some set →
          w.tc.baseTiKVSpec.configUpdateStrategy = configUpdateStrategyInPlace →
          let inUseName := env.helpers.findConfigMapVolume set.spec.template.spec
            fun name => name.startsWith (tikvMemberName w.tc.name)
          inUseName ≠ "" → cm.meta.name = inUseName) := by
  intro env w
  have hname : ∀ cm cm', env.createOrUpdateConfigMap cm = .ok cm' → cm'.meta.name = cm.meta.name :=
    fun _ _ h => by cases h; rfl
  exact ⟨hname, _, _, rfl, prepareStatefulSet_mounts_written env (some default) hname
    (rfl : prepareStatefulSet env (some default) w = _)⟩

/-! ## The stores of the cluster's own pods -/

/-- The name of pod `k` of a StatefulSet, `<set>-<k>`, as the StatefulSet controller names it. -/
def podNameOf (set : StatefulSet) (k : Nat) : String := set.meta.name ++ "-" ++ toString k

/-- The DNS name of pod `k` under the StatefulSet's headless Service. -/
def podDNSNameOf (set : StatefulSet) (k : Nat) : String :=
  podNameOf set k ++ "." ++ set.spec.serviceName ++ "." ++ set.meta.ns ++ ".svc"

/-- The peer address pod `k` advertises to the placement service, serving on port `p`. -/
def peerAddressOf (set : StatefulSet) (k p : Nat) : String :=
  podDNSNameOf set k ++ ":" ++ toString p

/-- The desired StatefulSet's name, headless Service and namespace. -/
theorem getNewTiKVSetForTikvCluster_names (helpers : Helpers) (tc : TikvCluster)
    (cm : Option ConfigMap) {set : StatefulSet}
    (h : getNewTiKVSetForTikvCluster helpers tc cm = .ok set) :
    set.meta.name = tikvMemberName tc.name ∧ set.spec.serviceName = tikvPeerMemberName tc.name ∧
      set.meta.ns = tc.ns := by
  cases hr : helpers.parseStorageRequest tc.spec.tikv.resources.requests with
  | error err =>
    have := (getNewTiKVSetForTikvCluster_error helpers tc cm _).mpr ⟨err, hr, rfl⟩
    rw [h] at this
    cases this
  | ok r =>
    simp [getNewTiKVSetForTikvCluster, hr, bind, Except.bind, pure, Except.pure] at h
    subst h
    exact ⟨rfl, rfl, rfl⟩

/-- `getTiKVStore` cuts a pod's DNS name from its peer address. -/
theorem splitHead_peerAddressOf {set : StatefulSet} {k : Nat} (p : Nat)
    (hcolon : ':' ∉ (podDNSNameOf set k).data) :
    splitHead (peerAddressOf set k p) ':' = podDNSNameOf set k := by
  have : peerAddressOf set k p = ⟨(podDNSNameOf set k).data ++ ':' :: (toString p).data⟩ := by
    rw [peerAddressOf, String.ext_iff, String.data_append, String.data_append, List.append_assoc]
    rfl
  rw [this, splitHead_append _ _ _ hcolon]

/-- `getTiKVStore` cuts a pod's name from its DNS name. -/
theorem splitHead_podDNSNameOf {set : StatefulSet} {k : Nat}
    (hdot : '.' ∉ (podNameOf set k).data) :
    splitHead (podDNSNameOf set k) '.' = podNameOf set k := by
  have : podDNSNameOf set k = ⟨(podNameOf set k).data ++ '.' ::
      (set.spec.serviceName ++ "." ++ set.meta.ns ++ ".svc").data⟩ := by
    rw [podDNSNameOf, String.ext_iff]
    simp only [String.data_append, List.append_assoc]
    rfl
  rw [this, splitHead_append _ _ _ hdot]

section Naming

variable {set : StatefulSet} {tc : TikvCluster} (hname : set.meta.name = tikvMemberName tc.name)
  (hsvc : set.spec.serviceName = tikvPeerMemberName tc.name) (hns : set.meta.ns = tc.ns)

include hname hsvc hns in
theorem peerAddressOf_eq (k p : Nat) :
    peerAddressOf set k p = canonicalAddress tc.name tc.ns (toString k) (toString p) := by
  simp only [peerAddressOf, podDNSNameOf, podNameOf, hname, hsvc, hns, canonicalAddress,
    tikvMemberName, tikvPeerMemberName, String.ext_iff, String.data_append, List.append_assoc]
  rfl

include hname hsvc hns in
/-- A pod's DNS name holds no `:`: it is made of the cluster's name and namespace, a numeral and
literal pieces. -/
theorem colon_not_mem_podDNSNameOf (k : Nat) : ':' ∉ (podDNSNameOf set k).data := by
  have hdns : ∀ s : String, (∀ c ∈ s.data, dnsChar c = true) → ':' ∉ s.data :=
    fun s hs h => absurd (hs ':' h) (by decide)
  simp only [podDNSNameOf, podNameOf, hname, hsvc, hns, tikvMemberName, tikvPeerMemberName,
    String.data_append, List.mem_append, not_or]
  repeat' apply And.intro
  all_goals first
    | exact hdns _ tc.name_valid
    | exact hdns _ tc.ns_valid
    | exact not_mem_toString ':' rfl k
    | decide

include hname in
/-- A pod's name holds no `.` when the cluster's name holds none. -/
theorem dot_not_mem_podNameOf (hdot : '.' ∉ tc.name.data) (k : Nat) :
    '.' ∉ (podNameOf set k).data := by
  simp only [podNameOf, hname, tikvMemberName, String.data_append, List.mem_append, not_or]
  exact ⟨⟨⟨hdot, by decide⟩, by decide⟩, not_mem_toString '.' rfl k⟩

end Naming

/-- The stores of the cluster's own pods are recognised and traced back to their pods. Let `set`
be the desired StatefulSet. Its headless Service is the peer Service, and a store whose address is
the peer address of its pod `k` is kept by the ownership check of the status sync and of the label
push, with the pod's DNS name as IP and, when the cluster's name holds no `.`, the pod's name. -/
theorem getNewTiKVSetForTikvCluster_own_stores (helpers : Helpers) (tc : TikvCluster)
    (cm : Option ConfigMap) {set : StatefulSet}
    (hset : getNewTiKVSetForTikvCluster helpers tc cm = .ok set) (k p : Nat) (store : Store)
    (status : StoreStatus) (haddr : store.address = peerAddressOf set k p) :
    set.spec.serviceName =
        (getNewServiceForTikvCluster helpers tc (peerSvcConfig helpers)).meta.name ∧
      ∃ r, keptRecord (ownerItems tc.name tc.ns) ⟨some store, some status⟩ = some r ∧
        r.ip = podDNSNameOf set k ∧ ('.' ∉ tc.name.data → r.podName = podNameOf set k) := by
  obtain ⟨hname, hsvc, hns⟩ := getNewTiKVSetForTikvCluster_names helpers tc cm hset
  have hdig : ∀ n : Nat, IsDigits (toString n) := fun n =>
    ⟨(toString_decimal n).2.1, (toString_decimal n).2.2⟩
  have hfind : find (ownerItems tc.name tc.ns) store.address.data = true := by
    rw [haddr, peerAddressOf_eq hname hsvc hns]
    exact (find_iff _ _).mpr ⟨[], _, [], by simp,
      lang_canonicalAddress tc.name_valid tc.ns_valid (hdig k) (hdig p)⟩
  have hip : splitHead store.address ':' = podDNSNameOf set k := by
    rw [haddr, splitHead_peerAddressOf p (colon_not_mem_podDNSNameOf hname hsvc hns k)]
  refine ⟨by rw [hsvc, getNewServiceForTikvCluster_name]; rfl,
    ⟨toString store.id, splitHead (splitHead store.address ':') '.', splitHead store.address ':',
      int32 status.leaderCount, store.stateName, status.lastHeartbeatTS, 0⟩,
    by simp only [keptRecord, ownedStore, hfind, if_true]; rfl, hip, fun hdot => ?_⟩
  show splitHead (splitHead store.address ':') '.' = podNameOf set k
  rw [hip, splitHead_podDNSNameOf (dot_not_mem_podNameOf hname hdot k)]

/-- Pod 0 of cluster `basic`, serving on 20160, is recognised as pod `basic-tikv-0`. -/
theorem getNewTiKVSetForTikvCluster_own_stores_basic :
    let helpers : Helpers :=
      { (default : Helpers) with parseStorageRequest := fun _ => .ok default }
    let tc : TikvCluster := { (default : TikvCluster) with
      name := "basic", ns := "default", name_valid := by decide, ns_valid := by decide }
    let store : Store := ⟨1, "basic-tikv-0.basic-tikv-peer.default.svc:20160", "Up", []⟩
    ∃ set, getNewTiKVSetForTikvCluster helpers tc none = .ok set ∧
      store.address = peerAddressOf set 0 20160 ∧
      set.spec.serviceName =
        (getNewServiceForTikvCluster helpers tc (peerSvcConfig helpers)).meta.name ∧
      ∃ r, keptRecord (ownerItems tc.name tc.ns) ⟨some store, some ⟨0, 0⟩⟩ = some r ∧
        r.ip = podDNSNameOf set 0 ∧ ('.' ∉ tc.name.data → r.podName = podNameOf set 0) := by
  intro helpers tc store
  obtain ⟨set, hset⟩ : ∃ set, getNewTiKVSetForTikvCluster helpers tc none = .ok set := ⟨_, rfl⟩
  have haddr : store.address = peerAddressOf set 0 20160 := by
    obtain ⟨hname, hsvc, hns⟩ := getNewTiKVSetForTikvCluster_names helpers tc none hset
    rw [peerAddressOf, podDNSNameOf, podNameOf, hname, hsvc, hns]
    rfl
  exact ⟨set, hset, haddr, getNewTiKVSetForTikvCluster_own_stores helpers tc none hset 0 20160 store
    ⟨0, 0⟩ haddr⟩

end TikvOperator
