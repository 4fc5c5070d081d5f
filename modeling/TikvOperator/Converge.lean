import TikvOperator.Sync

/-!
# The cycle against the API server and the placement service

`syncServiceForTikvCluster` reads the Service lister and writes through the Service control, and
the API server stores what it is sent. `ServiceStore` is the namespace's Services as the server
holds them, by name; `Env.withServices` is a cycle whose lister reads a store, the server refusing
to create a name it holds or to update one it does not; `ServiceStore.apply` is the server taking
one logged write. `persist` is what the server does to a Service it stores (it assigns a ClusterIP
and node ports); it keeps the name and the annotations.

`ServiceEqual` compares the desired spec with the spec recorded in the observed Service's
last-applied annotation. The proofs need one direction of that: a Service whose annotation
records the desired spec compares equal.

## Main results

* `syncServiceForTikvCluster_settles`: a Service sync that returns leaves its Service settled once
  the server applies its write, whatever the server did with the other names.
* `syncServices_converges`: after a cycle that returns, the next cycle over the same desired
  Services, distinct in name, finds each settled and writes nothing.
* `syncTikvServices_converges`: the Service part of `Sync` converges in one cycle, its desired
  Services having distinct names (`desiredServices_nodup`).

The label push reads the stores from the placement service and requests `SetStoreLabels`.
`StoreInfo.afterRequests` is a listed store as the service reports it once it has merged the
logged requests into the store's labels; `merge` is that merge, and the proofs need of it only
that the merged labels end with the requested values.

* `labelUpdates_afterRequests`: a label loop over the stores as they are after the previous
  loop's requests makes no request.
* `setStoreLabelsForTiKV_converges`: the label push converges in one cycle.
-/

namespace TikvOperator

open Regexp

/-- The Services of the namespace as the API server stores them, by name. -/
abbrev ServiceStore := GoMap Service

namespace ServiceStore

/-- The lister's answer: the Service stored under a name, or NotFound. -/
def get (store : ServiceStore) (name : String) : Except Error Service :=
  match store.lookup name with
  | some svc => .ok svc
  | none => .error (.notFound name)

/-- The server taking one logged write: a created or updated Service is admitted and stored under
its name. -/
def apply (persist : Service → Service) (store : ServiceStore) : Action → ServiceStore
  | .createService svc | .updateService svc => store.insert svc.meta.name (persist svc)
  | _ => store

/-- Every Service is stored under its own name. -/
def KeyedByName (store : ServiceStore) : Prop :=
  ∀ name svc, store.lookup name = some svc → svc.meta.name = name

end ServiceStore

/-- The cycle whose Service lister reads `store`; the server creates only an absent name and
updates only a present one. -/
def Env.withServices (env : Env) (store : ServiceStore) : Env :=
  { env with
    service := store.get
    createService := fun svc =>
      if (store.lookup svc.meta.name).isSome then .error (.api "already exists") else .ok ()
    updateService := fun svc =>
      if (store.lookup svc.meta.name).isSome then .ok () else .error (.notFound svc.meta.name) }

/-- The name of the Service a logged action writes. -/
def Action.serviceName : Action → Option String
  | .createService svc | .updateService svc => some svc.meta.name
  | _ => none

/-- A desired Service the next sync leaves alone: the store holds a Service under its name that
`ServiceEqual` finds equal to it. -/
def Settled (env : Env) (store : ServiceStore) (svc : Service) : Prop :=
  ∃ old, store.lookup svc.meta.name = some old ∧ env.helpers.serviceEqual svc old = .ok true

section Converge

variable (env : Env) (persist : Service → Service)
  (hpersist : ∀ svc, (persist svc).meta.name = svc.meta.name ∧
    (persist svc).meta.annotations = svc.meta.annotations)
  (hequal : ∀ newSvc oldSvc,
    oldSvc.meta.annotations.lookup env.helpers.lastAppliedConfigAnnotation =
      some (env.helpers.marshalServiceSpec newSvc.spec) →
    env.helpers.serviceEqual newSvc oldSvc = .ok true)

theorem lookup_apply_ne {a : Action} {n : String} (ha : a.serviceName ≠ some n)
    (store : ServiceStore) : (store.apply persist a).lookup n = store.lookup n := by
  cases a with
  | createService svc | updateService svc =>
    exact AList.lookup_insert_ne fun h => ha (by rw [h]; rfl)
  | _ => rfl

/-- Writes to other names leave the Service stored under a name alone. -/
theorem lookup_foldl_apply_ne {n : String} (acts : List Action)
    (hacts : ∀ a ∈ acts, a.serviceName ≠ some n) (store : ServiceStore) :
    (acts.foldl (ServiceStore.apply persist) store).lookup n = store.lookup n := by
  induction acts generalizing store with
  | nil => rfl
  | cons a acts ih =>
    rw [List.foldl_cons, ih (fun b hb => hacts b (List.mem_cons_of_mem a hb)),
      lookup_apply_ne persist (hacts a (List.mem_cons_self a acts))]

theorem settled_congr {store store' : ServiceStore} {svc : Service}
    (h : store'.lookup svc.meta.name = store.lookup svc.meta.name) (hs : Settled env store svc) :
    Settled env store' svc := by
  rwa [Settled, h]

include hpersist hequal in
/-- Storing a write of the Service's name whose annotation records the desired spec settles it. -/
theorem settled_apply {svc written : Service} (store : ServiceStore)
    (hname : written.meta.name = svc.meta.name)
    (hann : written.meta.annotations.lookup env.helpers.lastAppliedConfigAnnotation =
      some (env.helpers.marshalServiceSpec svc.spec)) :
    Settled env (store.insert written.meta.name (persist written)) svc :=
  ⟨persist written, by rw [hname, AList.lookup_insert],
    hequal _ _ (by rw [(hpersist written).2, hann])⟩

include hpersist hequal in
/-- One Service sync that returns appends at most a write of its Service's name, and once the
server applies that write the Service is settled, whatever the server did with the other names. -/
theorem syncServiceForTikvCluster_settles (store : ServiceStore) (hstore : store.KeyedByName)
    (svc : Service) {w w' : World} (hpaused : w.tc.spec.paused = false)
    (hrun : syncServiceForTikvCluster (env.withServices store) svc w = .ok () w') :
    ∃ acts, w' = { w with log := w.log ++ acts } ∧
      (∀ a ∈ acts, a.serviceName = some svc.meta.name) ∧
      ∀ cur : ServiceStore, cur.lookup svc.meta.name = store.lookup svc.meta.name →
        Settled env (acts.foldl (ServiceStore.apply persist) cur) svc := by
  have hann : ∀ s : Service,
      let written := setServiceLastAppliedConfigAnnotation env.helpers s
      written.meta.annotations.lookup env.helpers.lastAppliedConfigAnnotation =
        some (env.helpers.marshalServiceSpec s.spec) :=
    fun s => AList.lookup_insert _
  cases hs : store.lookup svc.meta.name with
  | none =>
    simp [syncServiceForTikvCluster, Env.withServices, ServiceStore.get, hpaused, hs, emit_run,
      Error.isNotFound, setServiceLastAppliedConfigAnnotation] at hrun
    subst hrun
    exact ⟨_, rfl, by simp [Action.serviceName, setServiceLastAppliedConfigAnnotation],
      fun cur _ => settled_apply env persist hpersist hequal cur rfl (hann svc)⟩
  | some old =>
    have hold : old.meta.name = svc.meta.name := hstore _ _ hs
    cases he : env.helpers.serviceEqual svc old with
    | error e =>
      simp [syncServiceForTikvCluster, Env.withServices, ServiceStore.get, hpaused, hs, he]
        at hrun
    | ok equal =>
      cases equal
      · simp [syncServiceForTikvCluster, Env.withServices, ServiceStore.get, hpaused, hs, he,
          emit_run, updatedService, setServiceLastAppliedConfigAnnotation, hold] at hrun
        subst hrun
        exact ⟨_, rfl, by simp [Action.serviceName, updatedService,
          setServiceLastAppliedConfigAnnotation, hold],
          fun cur _ => settled_apply env persist hpersist hequal cur
            (by simp [updatedService, setServiceLastAppliedConfigAnnotation, hold])
            (hann { old with spec := svc.spec })⟩
      · simp [syncServiceForTikvCluster, Env.withServices, ServiceStore.get, hpaused, hs, he]
          at hrun
        subst hrun
        exact ⟨[], by simp, by simp, fun cur hcur => ⟨old, by rw [List.foldl_nil, hcur], he⟩⟩

include hpersist hequal in
/-- A loop that returns appends writes of its Services' names only, and once the server applies
them every Service of the loop is settled, from any store that agrees with the observed one on
their names. -/
theorem syncServices_settles (store : ServiceStore) (hstore : store.KeyedByName) :
    ∀ (svcs : List Service), (svcs.map (·.meta.name)).Nodup → ∀ {w w' : World},
      syncServices (env.withServices store) svcs w = .ok () w' → w.tc.spec.paused = false →
      ∃ acts, w' = { w with log := w.log ++ acts } ∧
        (∀ a ∈ acts, ∃ svc ∈ svcs, a.serviceName = some svc.meta.name) ∧
        ∀ cur : ServiceStore,
          (∀ svc ∈ svcs, cur.lookup svc.meta.name = store.lookup svc.meta.name) →
          ∀ svc ∈ svcs, Settled env (acts.foldl (ServiceStore.apply persist) cur) svc
  | [], _, w, w', hrun, _ => by
    cases hrun
    exact ⟨[], by simp, by simp, by simp⟩
  | svc :: svcs, hnames, w, w', hrun, hpaused => by
    have hnot : svc.meta.name ∉ svcs.map (·.meta.name) := (List.nodup_cons.mp hnames).1
    cases h1 : syncServiceForTikvCluster (env.withServices store) svc w with
    | error e w1 => rw [syncServices, bind_error h1] at hrun; cases hrun
    | ok u w1 =>
      rw [syncServices, bind_ok h1] at hrun
      obtain ⟨acts1, rfl, hname1, hset1⟩ :=
        syncServiceForTikvCluster_settles env persist hpersist hequal store hstore svc hpaused h1
      obtain ⟨acts2, rfl, hname2, hset2⟩ :=
        syncServices_settles store hstore svcs (List.nodup_cons.mp hnames).2 hrun hpaused
      -- the rest's writes are to other names than `svc`'s
      have hother : ∀ a ∈ acts2, a.serviceName ≠ some svc.meta.name := fun a ha h => by
        obtain ⟨svc', hsvc', h'⟩ := hname2 a ha
        exact hnot (by rw [Option.some_inj.mp (h.symm.trans h')]; exact List.mem_map_of_mem _ hsvc')
      refine ⟨acts1 ++ acts2, by simp, ?_, fun cur hcur => ?_⟩
      · simp only [List.mem_append, List.mem_cons]
        rintro a (ha | ha)
        · exact ⟨svc, .inl rfl, hname1 a ha⟩
        · obtain ⟨svc', hsvc', h'⟩ := hname2 a ha
          exact ⟨svc', .inr hsvc', h'⟩
      rw [List.foldl_append]
      rintro svc' (_ | ⟨_, hsvc'⟩)
      · exact settled_congr env (lookup_foldl_apply_ne persist acts2 hother _)
          (hset1 cur (hcur svc (List.mem_cons_self _ _)))
      · refine hset2 _ (fun s hs => ?_) svc' hsvc'
        have hne : s.meta.name ≠ svc.meta.name := fun h => hnot (h ▸ List.mem_map_of_mem _ hs)
        rw [lookup_foldl_apply_ne persist acts1 (fun a ha h => hne (Option.some_inj.mp
          (h.symm.trans (hname1 a ha)))), hcur s (List.mem_cons_of_mem _ hs)]

/-- A settled Service is left alone. -/
theorem syncServiceForTikvCluster_of_settled {store : ServiceStore} {svc : Service} {w : World}
    (hpaused : w.tc.spec.paused = false) (hs : Settled env store svc) :
    syncServiceForTikvCluster (env.withServices store) svc w = .ok () w := by
  obtain ⟨old, hold, he⟩ := hs
  simp [syncServiceForTikvCluster, Env.withServices, ServiceStore.get, hpaused, hold, he]

theorem syncServices_of_settled {store : ServiceStore} (w : World)
    (hpaused : w.tc.spec.paused = false) :
    ∀ svcs : List Service, (∀ svc ∈ svcs, Settled env store svc) →
      syncServices (env.withServices store) svcs w = .ok () w
  | [], _ => rfl
  | svc :: svcs, hs => by
    rw [syncServices, bind_run,
      syncServiceForTikvCluster_of_settled env hpaused (hs svc (List.mem_cons_self _ _))]
    exact syncServices_of_settled w hpaused svcs fun s h => hs s (List.mem_cons_of_mem _ h)

end Converge

/-- The Service sync converges in one cycle. Let the API server keep every Service under its own
name and keep the name and annotations of what it stores, and let `ServiceEqual` find a Service
equal to the desired one when its last-applied annotation records the desired spec. After a
cycle over desired Services of distinct names returns, and the server applies the writes it
logged, the next cycle over the same desired Services returns at once and writes nothing. -/
theorem syncServices_converges (env : Env) (persist : Service → Service)
    (hpersist : ∀ svc, (persist svc).meta.name = svc.meta.name ∧
      (persist svc).meta.annotations = svc.meta.annotations)
    (hequal : ∀ newSvc oldSvc,
      oldSvc.meta.annotations.lookup env.helpers.lastAppliedConfigAnnotation =
        some (env.helpers.marshalServiceSpec newSvc.spec) →
      env.helpers.serviceEqual newSvc oldSvc = .ok true)
    (store : ServiceStore) (hstore : store.KeyedByName) (svcs : List Service)
    (hnames : (svcs.map (·.meta.name)).Nodup) (w : World) (hpaused : w.tc.spec.paused = false)
    (hrun : isError (syncServices (env.withServices store) svcs w) = false) :
    let w' := outcomeWorld (syncServices (env.withServices store) svcs w)
    syncServices (env.withServices
        ((w'.log.drop w.log.length).foldl (ServiceStore.apply persist) store)) svcs w' =
      .ok () w' := by
  intro w'
  cases hr : syncServices (env.withServices store) svcs w with
  | error e w1 => rw [hr] at hrun; cases hrun
  | ok u w1 =>
    obtain ⟨acts, rfl, -, hset⟩ :=
      syncServices_settles env persist hpersist hequal store hstore svcs hnames hr hpaused
    simp only [w', hr, outcomeWorld_ok, List.drop_left]
    exact syncServices_of_settled env { w with log := w.log ++ acts } hpaused svcs
      (hset store fun _ _ => rfl)

theorem externalServices_withServices (env : Env) (store : ServiceStore) (tc : TikvCluster)
    (eListeners : List ExternalListenerConfig) :
    externalServices (env.withServices store) tc eListeners =
      externalServices env tc eListeners := by
  induction eListeners with
  | nil => rfl
  | cons l eListeners ih =>
    simp only [externalServices, ih]
    rfl

/-- The Service part of `Sync` is the Service loop over the desired Services. -/
theorem syncTikvServices_withServices (env : Env) (store : ServiceStore) (w : World)
    {svcs : List Service}
    (hext : externalServices env w.tc (w.tc.spec.tikv.externalListeners.getD []) = .ok svcs) :
    syncTikvServices (env.withServices store) w = syncServices (env.withServices store)
      (svcs ++ [getNewServiceForTikvCluster env.helpers w.tc (peerSvcConfig env.helpers)]) w := by
  simp only [syncTikvServices, bind_run, getTc_run, externalServices_withServices, hext,
    read_ok_run]
  rfl

/-- The Service part of `Sync` converges in one cycle. Let the API server keep every Service under
its own name and keep the name and annotations of what it stores, and let `ServiceEqual` find a
Service equal to the desired one when its last-applied annotation records the desired spec. Let
the cluster's NodePort listeners have distinct names and the pod listing hold at most `2^31` pods,
so that the desired Services have distinct names. After a cycle that returns, and once the server
applies the writes it logged, the next cycle returns at once and writes nothing, when it gets the
same answers as the first but from the Service lister: the pods listed in the same order, since
the NodePort Services are numbered by their pod's position in the listing. -/
theorem syncTikvServices_converges (env : Env) (persist : Service → Service)
    (hpersist : ∀ svc, (persist svc).meta.name = svc.meta.name ∧
      (persist svc).meta.annotations = svc.meta.annotations)
    (hequal : ∀ newSvc oldSvc,
      oldSvc.meta.annotations.lookup env.helpers.lastAppliedConfigAnnotation =
        some (env.helpers.marshalServiceSpec newSvc.spec) →
      env.helpers.serviceEqual newSvc oldSvc = .ok true)
    (store : ServiceStore) (hstore : store.KeyedByName) (w : World)
    (hpaused : w.tc.spec.paused = false) {pods : List Pod} (hpods : env.pods w.tc.name = .ok pods)
    (hlen : pods.length ≤ 2147483648)
    (hnames : (((w.tc.spec.tikv.externalListeners.getD []).filter fun l =>
      decide (l.accessMethod = serviceTypeNodePort)).map (·.name)).Nodup)
    (hrun : isError (syncTikvServices (env.withServices store) w) = false) :
    let w' := outcomeWorld (syncTikvServices (env.withServices store) w)
    syncTikvServices (env.withServices
        ((w'.log.drop w.log.length).foldl (ServiceStore.apply persist) store)) w' = .ok () w' := by
  intro w'
  obtain ⟨svcs, hext, hnodup⟩ := desiredServices_nodup env w.tc hpods hlen _ hnames
  have hsync := syncTikvServices_withServices env store w hext
  -- the cycle only appends to the log, so the second one desires the same Services
  obtain ⟨acts, hw, -⟩ := syncServices_writes (env.withServices store) w
    (svcs ++ [getNewServiceForTikvCluster env.helpers w.tc (peerSvcConfig env.helpers)])
  have htc : w'.tc = w.tc := by simp only [w', hsync, hw]
  have hext' : externalServices env w'.tc (w'.tc.spec.tikv.externalListeners.getD []) =
      .ok svcs := by
    rw [htc]; exact hext
  rw [syncTikvServices_withServices env _ w' hext', htc]
  rw [hsync] at hrun
  have h2 := syncServices_converges env persist hpersist hequal store hstore _ hnodup w hpaused hrun
  simp only [w', hsync] at h2 ⊢
  exact h2

/-- A cluster with one NodePort listener and one pod, synced into an empty namespace whose server
assigns a ClusterIP: the first cycle creates two Services, the second writes nothing. -/
theorem syncTikvServices_converges_one_listener :
    let env : Env := { (default : Env) with
      helpers.lastAppliedConfigAnnotation := "tikv.org/last-applied-config"
      helpers.marshalServiceSpec := fun spec => spec.type
      helpers.serviceEqual := fun newSvc oldSvc =>
        .ok (oldSvc.meta.annotations.lookup "tikv.org/last-applied-config" == some newSvc.spec.type)
      pods := fun _ => .ok [default] }
    let persist : Service → Service := fun svc => { svc with spec.clusterIP := "10.96.0.10" }
    let w : World := { (default : World) with
      tc.spec.tikv.externalListeners := some [{ (default : ExternalListenerConfig) with
        name := "ext", accessMethod := serviceTypeNodePort }] }
    (∀ svc, (persist svc).meta.name = svc.meta.name ∧
      (persist svc).meta.annotations = svc.meta.annotations) ∧
    (∀ newSvc oldSvc,
      oldSvc.meta.annotations.lookup env.helpers.lastAppliedConfigAnnotation =
        some (env.helpers.marshalServiceSpec newSvc.spec) →
      env.helpers.serviceEqual newSvc oldSvc = .ok true) ∧
    ServiceStore.KeyedByName ∅ ∧ w.tc.spec.paused = false ∧ env.pods w.tc.name = .ok [default] ∧
    [(default : Pod)].length ≤ 2147483648 ∧
    (((w.tc.spec.tikv.externalListeners.getD []).filter fun l =>
      decide (l.accessMethod = serviceTypeNodePort)).map (·.name)).Nodup ∧
    isError (syncTikvServices (env.withServices ∅) w) = false ∧
    (outcomeWorld (syncTikvServices (env.withServices ∅) w)).log.length = 2 ∧
    let w' := outcomeWorld (syncTikvServices (env.withServices ∅) w)
    syncTikvServices (env.withServices
        ((w'.log.drop w.log.length).foldl (ServiceStore.apply persist) ∅)) w' = .ok () w' := by
  intro env persist w
  have hpersist : ∀ svc, (persist svc).meta.name = svc.meta.name ∧
      (persist svc).meta.annotations = svc.meta.annotations := fun _ => ⟨rfl, rfl⟩
  have hequal : ∀ newSvc oldSvc,
      oldSvc.meta.annotations.lookup env.helpers.lastAppliedConfigAnnotation =
        some (env.helpers.marshalServiceSpec newSvc.spec) →
      env.helpers.serviceEqual newSvc oldSvc = .ok true := fun _ _ h => by simp [env, h]
  have hstore : ServiceStore.KeyedByName ∅ := fun _ _ h => by simp at h
  have hnames : (((w.tc.spec.tikv.externalListeners.getD []).filter fun l =>
      decide (l.accessMethod = serviceTypeNodePort)).map (·.name)).Nodup := by decide
  have hrun : isError (syncTikvServices (env.withServices ∅) w) = false := by decide
  exact ⟨hpersist, hequal, hstore, rfl, rfl, by decide, hnames, hrun, by decide,
    syncTikvServices_converges env persist hpersist hequal ∅ hstore w rfl rfl (by decide) hnames
      hrun⟩

/-! ## The label push against the placement service -/

/-- The labels of store `id` after the placement service takes one logged action: a request for
that store is merged in, anything else leaves them alone. -/
def mergeRequest (merge : List StoreLabel → GoMap String → List StoreLabel) (id : Nat)
    (labels : List StoreLabel) : Action → List StoreLabel
  | .setStoreLabels id' ls => if id' = id then merge labels ls else labels
  | _ => labels

/-- A listed store as the placement service reports it once it has taken the logged actions. -/
def StoreInfo.afterRequests (merge : List StoreLabel → GoMap String → List StoreLabel)
    (acts : List Action) (info : StoreInfo) : StoreInfo :=
  { info with store := info.store.map fun s =>
      { s with labels := acts.foldl (mergeRequest merge s.id) s.labels } }

/-- A `SetStoreLabels` request for store `id`. -/
def Action.targets (id : Nat) : Action → Prop
  | .setStoreLabels id' _ => id' = id
  | _ => False

section Labels

variable (merge : List StoreLabel → GoMap String → List StoreLabel)

@[simp] theorem keptRecord_afterRequests (pattern : List Item) (acts : List Action)
    (info : StoreInfo) :
    keptRecord pattern (info.afterRequests merge acts) = keptRecord pattern info := by
  obtain ⟨_ | s, _ | st⟩ := info <;> rfl

@[simp] theorem podFails_afterRequests (env : Env) (pattern : List Item) (acts : List Action)
    (info : StoreInfo) :
    podFails env pattern (info.afterRequests merge acts) = podFails env pattern info := by
  simp only [podFails, keptRecord_afterRequests]

/-- Requests for other stores leave a store's labels alone. -/
theorem mergeRequest_untargeted {id : Nat} {a : Action} (ha : ¬ a.targets id)
    (labels : List StoreLabel) : mergeRequest merge id labels a = labels := by
  cases a with
  | setStoreLabels id' ls => exact if_neg ha
  | _ => rfl

theorem foldl_mergeRequest_untargeted {id : Nat} {acts : List Action}
    (h : ∀ a ∈ acts, ¬ a.targets id) (labels : List StoreLabel) :
    acts.foldl (mergeRequest merge id) labels = labels := by
  induction acts generalizing labels with
  | nil => rfl
  | cons a acts ih =>
    rw [List.foldl_cons, mergeRequest_untargeted merge (h a (List.mem_cons_self _ _)),
      ih (fun a ha => h a (List.mem_cons_of_mem _ ha))]

/-- The request an entry makes is for its own store. -/
theorem targets_of_mem_labelUpdate {env : Env} {pattern : List Item}
    {locationLabels : List String}
    {info : StoreInfo} {a : Action} {id : Nat} (h : a ∈ labelUpdate env pattern locationLabels info)
    (ht : a.targets id) : ∃ s, info.store = some s ∧ s.id = id := by
  unfold labelUpdate at h
  split at h
  · rename_i status s hk hs
    split at h
    · cases h
    · split at h
      · cases h
      · split_ifs at h
        · cases h
        · simp only [List.mem_singleton] at h
          subst h
          exact ⟨s, hs, ht⟩
  · cases h

@[simp] theorem afterRequests_store (acts : List Action) (info : StoreInfo) :
    (info.afterRequests merge acts).store = info.store.map fun s =>
      { s with labels := acts.foldl (mergeRequest merge s.id) s.labels } := rfl

/-- The requests of entries that list other stores leave a store's labels alone. -/
theorem foldl_labelUpdates_untargeted {env : Env} {pattern : List Item}
    {locationLabels : List String} {id : Nat} {infos : List StoreInfo}
    (h : ∀ info ∈ infos, ∀ s, info.store = some s → s.id ≠ id) (labels : List StoreLabel) :
    ((infos.map (labelUpdate env pattern locationLabels)).flatten).foldl (mergeRequest merge id)
      labels = labels :=
  foldl_mergeRequest_untargeted merge (fun a ha ht => by
    obtain ⟨l, hl, ha⟩ := List.mem_flatten.mp ha
    obtain ⟨info, hinfo, rfl⟩ := List.mem_map.mp hl
    obtain ⟨s, hs, hid⟩ := targets_of_mem_labelUpdate ha ht
    exact h info hinfo s hs hid) labels

theorem id_mem_of_store {infos : List StoreInfo} {info : StoreInfo} {s : Store} (hi : info ∈ infos)
    (hs : info.store = some s) : s.id ∈ (infos.filterMap (·.store)).map (·.id) :=
  List.mem_map_of_mem _ (List.mem_filterMap.mpr ⟨info, hi, hs⟩)

/-- With distinct store IDs, the only request of a loop for an entry's store is its own. -/
theorem foldl_labelUpdates_own {env : Env} {pattern : List Item}
    {locationLabels : List String}
    {pre post : List StoreInfo} {info : StoreInfo} {s : Store} (hs : info.store = some s)
    (hids : (((pre ++ info :: post).filterMap (·.store)).map (·.id)).Nodup)
    (labels : List StoreLabel) :
    (((pre ++ info :: post).map (labelUpdate env pattern locationLabels)).flatten).foldl
        (mergeRequest merge s.id) labels =
      (labelUpdate env pattern locationLabels info).foldl (mergeRequest merge s.id) labels := by
  rw [List.filterMap_append, List.filterMap_cons_some hs, List.map_append, List.map_cons,
    List.nodup_append, List.nodup_cons] at hids
  obtain ⟨-, ⟨hpost, -⟩, hdisj⟩ := hids
  have hpre : ∀ i ∈ pre, ∀ s', i.store = some s' → s'.id ≠ s.id := fun i hi s' hs' heq =>
    hdisj (heq ▸ id_mem_of_store hi hs') (List.mem_cons_self _ _)
  have hpost : ∀ i ∈ post, ∀ s', i.store = some s' → s'.id ≠ s.id := fun i hi s' hs' heq =>
    hpost (heq ▸ id_mem_of_store hi hs')
  rw [List.map_append, List.map_cons, List.flatten_append, List.flatten_cons, List.foldl_append,
    List.foldl_append, foldl_labelUpdates_untargeted merge hpre,
    foldl_labelUpdates_untargeted merge hpost]

variable
  (hmerge : ∀ labels ls k v, ls.lookup k = some v → lastLabelValue (merge labels ls) k = some v)

include hmerge in
/-- An entry whose own request, if it made one, has been merged makes no request: the node labels
are unchanged and the store's labels now end with them. -/
theorem labelUpdate_after_own {env : Env} {pattern : List Item}
    {locationLabels : List String}
    {info : StoreInfo} {acts : List Action}
    (hown : ∀ s, info.store = some s → acts.foldl (mergeRequest merge s.id) s.labels =
      (labelUpdate env pattern locationLabels info).foldl (mergeRequest merge s.id) s.labels) :
    labelUpdate env pattern locationLabels (info.afterRequests merge acts) = [] := by
  cases hk : keptRecord pattern info with
  | none => simp [labelUpdate, hk]
  | some status =>
    cases hs : info.store with
    | none => simp [labelUpdate, hk, hs]
    | some s =>
      cases hp : env.pod status.podName with
      | error => simp [labelUpdate, hk, hs, hp]
      | ok pod =>
        cases hn : getNodeLabels env pod.nodeName locationLabels with
        | error => simp [labelUpdate, hk, hs, hp, hn]
        | ok ls =>
          have hown := hown s hs
          rw [labelUpdate_of_node hk hs hp hn] at hown
          simp only [labelUpdate, keptRecord_afterRequests, afterRequests_store, hk, hs, hp, hn,
            Option.map_some', hown]
          by_cases hc : (ls.entries.isEmpty || storeLabelsEqualNodeLabels s.labels ls) = true
          · simp [hc]
          · have heq : storeLabelsEqualNodeLabels (merge s.labels ls) ls = true :=
              (storeLabelsEqualNodeLabels_iff _ _).mpr (hmerge s.labels ls)
            simp [hc, mergeRequest, heq]

include hmerge in
/-- A label loop over the stores as they are after the previous loop's requests makes no request,
when the listed store IDs are distinct: it stops at the same entry, and every entry before it has
its own request merged. -/
theorem labelUpdates_afterRequests (env : Env) (pattern : List Item) (locationLabels : List String)
    (infos : List StoreInfo) (hids : ((infos.filterMap (·.store)).map (·.id)).Nodup) :
    labelUpdates env pattern locationLabels
      (infos.map (StoreInfo.afterRequests merge (labelUpdates env pattern locationLabels infos))) =
      [] := by
  have hP : ((infos.takeWhile fun info => !podFails env pattern info).filterMap (·.store)).map
      (·.id) |>.Nodup := hids.sublist (((List.takeWhile_sublist _).filterMap _).map _)
  unfold labelUpdates
  rw [List.takeWhile_map]
  simp only [Function.comp_def, podFails_afterRequests, List.map_map, List.flatten_eq_nil_iff,
    List.mem_map]
  rintro _ ⟨info, hinfo, rfl⟩
  refine labelUpdate_after_own merge hmerge fun s hs => ?_
  obtain ⟨pre, post, hsplit⟩ := List.append_of_mem hinfo
  rw [hsplit] at hP ⊢
  exact foldl_labelUpdates_own merge hs hP _

end Labels

/-- The label push converges in one cycle. Let the placement service list stores of distinct IDs
and merge a request into a store's labels so that they end with the requested values. After a
push, the next push against the stores as the service then reports them, listed in the same order
and with the same pods and nodes, makes no request and changes nothing. The order matters, since
the loop stops at the first store whose pod cannot be read. -/
theorem setStoreLabelsForTiKV_converges (merge : List StoreLabel → GoMap String → List StoreLabel)
    (hmerge : ∀ labels ls k v, ls.lookup k = some v → lastLabelValue (merge labels ls) k = some v)
    (env : Env) (w : World) {infos : List StoreInfo} (hstores : env.stores = .ok infos)
    (hids : ((infos.filterMap (·.store)).map (·.id)).Nodup) :
    let w' := outcomeWorld (setStoreLabelsForTiKV env w)
    let env' : Env := { env with
      stores := .ok (infos.map (StoreInfo.afterRequests merge (w'.log.drop w.log.length))) }
    outcomeWorld (setStoreLabelsForTiKV env' w') = w' := by
  intro w' env'
  have h1 : w' = { w with log := w.log ++ (storeLabelsPlan env w.tc).2 } :=
    (setStoreLabelsForTiKV_outcome env w).2
  rw [(setStoreLabelsForTiKV_outcome env' w').2]
  suffices (storeLabelsPlan env' w'.tc).2 = [] by simp [this]
  simp only [env', h1, List.drop_left]
  unfold storeLabelsPlan
  rw [hstores]
  cases hc : env.config with
  | error => rfl
  | ok config =>
    cases hl : config.locationLabels with
    | none => simp [hl]
    | some locationLabels =>
      simp only [hl]
      exact labelUpdates_afterRequests merge hmerge env _ locationLabels infos hids

/-- The placement service appending the requested labels to a store's. -/
def appendLabels (labels : List StoreLabel) (ls : GoMap String) : List StoreLabel :=
  labels ++ ls.entries.map fun e => ⟨e.1, e.2⟩

theorem lastLabelValue_appendLabels (labels : List StoreLabel) (ls : GoMap String) (k v : String)
    (h : ls.lookup k = some v) : lastLabelValue (appendLabels labels ls) k = some v := by
  have hmem : (⟨k, v⟩ : Σ _ : String, String) ∈ ls.entries := AList.mem_lookup_iff.mp h
  obtain ⟨e, he⟩ := Option.isSome_iff_exists.mp (List.find?_isSome.mpr
    ⟨(⟨k, v⟩ : StoreLabel), List.mem_reverse.mpr (List.mem_map.mpr ⟨_, hmem, rfl⟩), by simp⟩ :
    ((ls.entries.map fun e => (⟨e.1, e.2⟩ : StoreLabel)).reverse.find? (·.key == k)).isSome)
  obtain ⟨e', he', rfl⟩ := List.mem_map.mp (List.mem_reverse.mp (List.mem_of_find?_eq_some he))
  have : e' = ⟨k, v⟩ := ls.nodupKeys.eq_of_fst_eq he' hmem (by simpa using List.find?_some he)
  subst this
  simp [lastLabelValue, appendLabels, List.find?_append, he]

/-- A store labelled `zone=a` on a node in zone `b`: the first push requests `zone=b`, and once
the service appends it the second push makes no request. -/
theorem setStoreLabelsForTiKV_converges_zone :
    let store : Store :=
      ⟨1, "basic-tikv-0.basic-tikv-peer.default.svc:20160", "Up", [⟨"zone", "a"⟩]⟩
    let infos : List StoreInfo := [⟨some store, some ⟨0, 0⟩⟩]
    let node : Node := ⟨((∅ : GoMap String).insert labelHostname "node-1").insert "zone" "b"⟩
    let env : Env := { (default : Env) with
      stores := .ok infos, config := .ok ⟨some ["zone", "host"]⟩
      pod := fun _ => .ok default, node := fun _ => .ok node
      setStoreLabels := fun _ _ => .ok true }
    let w : World := { (default : World) with tc := { (default : TikvCluster) with
      name := "basic", ns := "default", name_valid := by decide, ns_valid := by decide } }
    (∀ labels ls k v, ls.lookup k = some v → lastLabelValue (appendLabels labels ls) k = some v) ∧
    env.stores = .ok infos ∧ ((infos.filterMap (·.store)).map (·.id)).Nodup ∧
    (outcomeWorld (setStoreLabelsForTiKV env w)).log.length = 1 ∧
    let w' := outcomeWorld (setStoreLabelsForTiKV env w)
    let env' : Env := { env with
      stores := .ok (infos.map (StoreInfo.afterRequests appendLabels (w'.log.drop w.log.length))) }
    outcomeWorld (setStoreLabelsForTiKV env' w') = w' := by
  intro store infos node env w
  exact ⟨lastLabelValue_appendLabels, rfl, by decide, by decide,
    setStoreLabelsForTiKV_converges appendLabels lastLabelValue_appendLabels env w rfl (by decide)⟩

end TikvOperator
