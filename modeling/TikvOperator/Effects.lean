import TikvOperator.Types

/-!
# The reconcile cycle's environment and effects

One call of `Sync` runs against an `Env`: what the listers' caches and the placement service
answer, and how the API server answers each write. Code of this repository that the sources do
not contain (the `controller` and `label` packages, the member package's utilities, the
`TikvCluster` methods) is given as `Helpers`, functions the model takes as they are.

The state is a `World`: the `TikvCluster` object the code mutates in place, and the log of
every write issued and every collaborator called, in order. A write is logged when issued,
whether or not it then fails. Reads are not logged. `SyncM` is `EStateM`, so the state the code
left behind is kept when a step returns an error, as Go's pointer to the cluster keeps it.
-/

namespace TikvOperator

/-- Functions of this repository outside the sources, as the member manager calls them. -/
structure Helpers where
  /-- `tc.PDIsAvailable()`. -/
  pdIsAvailable : TikvCluster → Bool
  /-- `tc.TiKVAllPodsStarted()` and `tc.TiKVAllStoresReady()`. -/
  tikvAllPodsStarted : TikvCluster → Bool
  tikvAllStoresReady : TikvCluster → Bool
  /-- `statefulSetIsUpgrading(set)`. -/
  statefulSetIsUpgrading : StatefulSet → Bool
  /-- `filterContainer(set, name)`. -/
  filterContainer : StatefulSet → String → Option Container
  /-- `label.New().Instance(instance).TiKV().Labels()`. -/
  tikvLabels : String → GoMap String
  /-- `LabelsTikv(tcName)` and `label.New().Instance(tcName).PD().Labels()`. -/
  labelsTikv : String → GoMap String
  labelsPD : String → GoMap String
  /-- `MergeLabels(a, b)`. -/
  mergeLabels : GoMap String → GoMap String → GoMap String
  /-- `controller.ServiceEqual(new, old)`. -/
  serviceEqual : Service → Service → Except Error Bool
  /-- `templateEqual(new, old)` and the StatefulSet equality `updateStatefulSet` tests. -/
  templateEqual : StatefulSet → StatefulSet → Bool
  statefulSetEqual : StatefulSet → StatefulSet → Bool
  /-- The last-applied-configuration annotation key and the JSON encodings stored under it. -/
  lastAppliedConfigAnnotation : String
  marshalServiceSpec : ServiceSpec → String
  marshalStatefulSetSpec : StatefulSetSpec → String
  /-- `controller.ParseStorageRequest(tc.Spec.TiKV.Requests)`, failing with the error's text. -/
  parseStorageRequest : ResourceList → Except String ResourceRequirements
  /-- `MarshalTOML`, `RenderTiKVStartScript` for a scheme, and `AddConfigMapDigestSuffix`. -/
  marshalTOML : TiKVConfig → Except Error String
  renderTiKVStartScript : String → Except Error String
  addConfigMapDigestSuffix : ConfigMap → Except Error ConfigMap
  /-- `FindConfigMapVolume(podSpec, pred)`: the name of the first ConfigMap volume `pred` accepts,
  or the empty string. -/
  findConfigMapVolume : PodSpec → (String → Bool) → String
  /-- `tc.Scheme()`, `tc.TiKVImage()`, `tc.HelperImage()`, `tc.TiKVContainerPrivilege()`,
  `tc.IsTLSClusterEnabled()` and `tc.TiKVStsDesiredReplicas()`. -/
  scheme : TikvCluster → String
  tikvImage : TikvCluster → String
  helperImage : TikvCluster → String
  tikvContainerPrivilege : TikvCluster → Option Bool
  isTLSClusterEnabled : TikvCluster → Bool
  tikvStsDesiredReplicas : TikvCluster → Int
  /-- `controller.MemberConfigMapName(tc, TiKVMemberType)`, `controller.AnnProm(20180)`,
  `getStsAnnotations(tc, "tikv")`, `controller.TiKVCapacity(limits)`,
  `controller.ContainerResource`,
  `util.ClusterTLSSecretName(tcName, "tikv")` and `util.AppendEnv`. -/
  memberConfigMapName : TikvCluster → String
  annProm : GoMap String
  stsAnnotations : TikvCluster → GoMap String
  tikvCapacity : ResourceList → String
  containerResource : ResourceRequirements → ResourceRequirements
  clusterTLSSecretName : String → String
  appendEnv : List EnvVar → List EnvVar → List EnvVar
  /-- `controller.GetOwnerRef(tc)`. -/
  getOwnerRef : TikvCluster → OwnerReference
  /-- `CombineAnnotations(a, b)` and `annotationsMountVolume()`. -/
  combineAnnotations : GoMap String → GoMap String → GoMap String
  annotationsMount : VolumeMount
  annotationsVolume : Volume
  /-- `label.AnnSysctlInit` and `label.AnnSysctlInitVal`. -/
  annSysctlInit : String
  annSysctlInitVal : String
deriving Inhabited

/-- What one reconcile cycle observes, and how every write it issues is answered. A lister's
NotFound is `Error.notFound`. Each call has one answer per cycle: the status sync and the label
push read the same `GetStores` listing, and every NodePort listener the same pod listing. -/
structure Env where
  helpers : Helpers
  /-- `setLister.StatefulSets(ns).Get(TiKVMemberName(tcName))`. -/
  statefulSet : Except Error StatefulSet
  /-- `svcLister.Services(ns).Get(name)`. -/
  service : String → Except Error Service
  /-- The TiKV pods of an instance: the selector built and `podLister.Pods(ns).List` with it. -/
  pods : String → Except Error (List Pod)
  /-- `podLister.Pods(ns).Get(name)` and `nodeLister.Get(name)`. -/
  pod : String → Except Error Pod
  node : String → Except Error Node
  /-- The placement service: `GetStores`, `GetTombStoneStores`, `GetConfig`, `SetStoreLabels`. -/
  stores : Except Error (List StoreInfo)
  tombStoneStores : Except Error (List StoreInfo)
  config : Except Error PDConfig
  setStoreLabels : Nat → GoMap String → Except Error Bool
  /-- The answers to the writes of the controls. -/
  createService : Service → Except Error Unit
  updateService : Service → Except Error Unit
  createStatefulSet : StatefulSet → Except Error Unit
  updateStatefulSet : StatefulSet → Except Error Unit
  createOrUpdateConfigMap : ConfigMap → Except Error ConfigMap
  /-- The injected collaborators `Upgrade(tc, oldSet, newSet)`, `Scale(tc, oldSet, newSet)`,
  `Recover(tc)` and `Failover(tc)`, with the cluster status and desired StatefulSet they leave. -/
  upgrade : TikvCluster → StatefulSet → StatefulSet → Except Error (TikvClusterStatus × StatefulSet)
  scale : TikvCluster → StatefulSet → StatefulSet → Except Error (TikvClusterStatus × StatefulSet)
  recover : TikvCluster → TikvClusterStatus
  failover : TikvCluster → Except Error TikvClusterStatus
  /-- `tkmm.autoFailover` and the time `metav1.Now()` reads. -/
  autoFailover : Bool
  now : Nat
deriving Inhabited

/-- A write the cycle issues, or a call into one of the injected collaborators. -/
inductive Action where
  | createStatefulSet (set : StatefulSet)
  | updateStatefulSet (set : StatefulSet)
  | createOrUpdateConfigMap (cm : ConfigMap)
  | createService (svc : Service)
  | updateService (svc : Service)
  | setStoreLabels (id : Nat) (labels : GoMap String)
  | upgrade
  | scale
  | recover
  | failover

/-- The cluster object the cycle mutates, and the log of its actions. -/
structure World where
  tc : TikvCluster
  log : List Action
deriving Inhabited

abbrev SyncM := EStateM Error World

/-- The state a run leaves, whether it returned or failed. -/
def outcomeWorld {α : Type} : EStateM.Result Error World α → World
  | .ok _ w => w
  | .error _ w => w

/-- Whether a run returned an error. -/
def isError {α : Type} : EStateM.Result Error World α → Bool
  | .ok _ _ => false
  | .error _ _ => true

/-- Takes the outcome of a read: its value, or its error returned at once. -/
def read {α : Type} : Except Error α → SyncM α
  | .ok a => pure a
  | .error e => throw e

/-- Logs an action and returns how it was answered, an error included. -/
def emitTry {α : Type} (a : Action) (r : Except Error α) : SyncM (Except Error α) :=
  modifyGet fun w => (r, { w with log := w.log ++ [a] })

/-- Logs an action, then takes its outcome as a read. -/
def emit {α : Type} (a : Action) (r : Except Error α) : SyncM α := emitTry a r >>= read

def getTc : SyncM TikvCluster := fun w => .ok w.tc w

/-- Replaces the cluster's status, as a collaborator leaves it. -/
def setStatus (status : TikvClusterStatus) : SyncM Unit := fun w =>
  .ok () { w with tc.status := status }

/-- Calls a collaborator: logs the call, then takes the status it leaves and what it returns. -/
def call {α : Type} (a : Action) (r : Except Error (TikvClusterStatus × α)) : SyncM α := do
  let (status, x) ← emit a r
  setStatus status
  pure x

/-- Updates the TiKV part of the cluster's status. -/
def modifyTiKV (f : TiKVStatus → TiKVStatus) : SyncM Unit := fun w =>
  .ok () { w with tc.status.tikv := f w.tc.status.tikv }

/-! ## Running a step on a state -/

section Run

variable {α β : Type} (w : World)

@[simp] theorem pure_run (a : α) : (pure a : SyncM α) w = .ok a w := rfl

@[simp] theorem throw_run (e : Error) : (throw e : SyncM α) w = .error e w := rfl

@[simp] theorem bind_run (x : SyncM α) (f : α → SyncM β) :
    (x >>= f) w = match x w with
      | .ok a w' => f a w'
      | .error e w' => .error e w' := by
  simp only [bind, EStateM.bind]; cases x w <;> rfl

@[simp] theorem map_run (f : α → β) (x : SyncM α) :
    (f <$> x) w = match x w with
      | .ok a w' => .ok (f a) w'
      | .error e w' => .error e w' := by
  simp only [Functor.map, EStateM.map]; cases x w <;> rfl

@[simp] theorem read_ok_run (a : α) : read (.ok a) w = .ok a w := rfl

@[simp] theorem read_error_run (e : Error) : (read (.error e) : SyncM α) w = .error e w := rfl

@[simp] theorem emitTry_run (a : Action) (r : Except Error α) :
    emitTry a r w = .ok r { w with log := w.log ++ [a] } := rfl

theorem emit_run (a : Action) (r : Except Error α) :
    emit a r w = match r with
      | .ok x => .ok x { w with log := w.log ++ [a] }
      | .error e => .error e { w with log := w.log ++ [a] } := by
  cases r <;> rfl

@[simp] theorem getTc_run : getTc w = .ok w.tc w := rfl

@[simp] theorem setStatus_run (status : TikvClusterStatus) :
    setStatus status w = .ok () { w with tc.status := status } := rfl

theorem call_run (a : Action) (r : Except Error (TikvClusterStatus × α)) :
    call a r w = match r with
      | .ok (status, x) => .ok x { tc := { w.tc with status := status }, log := w.log ++ [a] }
      | .error e => .error e { w with log := w.log ++ [a] } := by
  cases r <;> rfl

@[simp] theorem modifyTiKV_run (f : TiKVStatus → TiKVStatus) :
    modifyTiKV f w = .ok () { w with tc.status.tikv := f w.tc.status.tikv } := rfl

@[simp] theorem outcomeWorld_ok (a : α) :
    outcomeWorld (.ok a w : EStateM.Result Error World α) = w := rfl

@[simp] theorem outcomeWorld_error (e : Error) :
    outcomeWorld (.error e w : EStateM.Result Error World α) = w := rfl

@[simp] theorem outcomeWorld_emit (a : Action) (r : Except Error α) :
    outcomeWorld (emit a r w) = { w with log := w.log ++ [a] } := by
  cases r <;> rfl

@[simp] theorem isError_ok (a : α) : isError (.ok a w : EStateM.Result Error World α) = false := rfl

@[simp] theorem isError_error (e : Error) :
    isError (.error e w : EStateM.Result Error World α) = true := rfl

end Run

section Peel

variable {α β : Type} {x : SyncM α} {f : α → SyncM β} {w w' : World}

theorem bind_ok {a : α} (h : x w = .ok a w') : (x >>= f) w = f a w' := by
  rw [bind_run, h]

theorem bind_error {e : Error} (h : x w = .error e w') : (x >>= f) w = .error e w' := by
  rw [bind_run, h]

theorem exists_error_of_isError {r : EStateM.Result Error World α} (h : isError r = true) :
    ∃ e w', r = .error e w' := by
  cases r with
  | ok a w' => cases h
  | error e w' => exact ⟨e, w', rfl⟩

end Peel

/-! ## Steps that keep the cluster object

Every step of the cycle leaves the cluster object as it found it but for its status, and only
appends to the log. `World.Follows P w w'` says so of two states, the appended actions satisfying
`P`; `Confined P x` says it of every run of `x`, returned or failed. -/

/-- `w'` follows `w` by actions satisfying `P`. -/
def World.Follows (P : Action → Prop) (w w' : World) : Prop :=
  w'.tc = { w.tc with status := w'.tc.status } ∧ ∃ acts, w'.log = w.log ++ acts ∧ ∀ a ∈ acts, P a

namespace World.Follows

variable {P Q : Action → Prop} {w w' w'' : World}

theorem refl (P : Action → Prop) (w : World) : Follows P w w := ⟨rfl, [], by simp, by simp⟩

theorem trans (h : Follows P w w') (h' : Follows P w' w'') : Follows P w w'' := by
  obtain ⟨htc, acts, hlog, hacts⟩ := h
  obtain ⟨htc', acts', hlog', hacts'⟩ := h'
  refine ⟨htc'.trans (congrArg (fun tc : TikvCluster => { tc with status := w''.tc.status }) htc),
    acts ++ acts', by simp [hlog', hlog], ?_⟩
  simpa [or_imp, forall_and] using ⟨hacts, hacts'⟩

theorem mono (hPQ : ∀ a, P a → Q a) (h : Follows P w w') : Follows Q w w' :=
  ⟨h.1, h.2.imp fun _ h => ⟨h.1, fun a ha => hPQ a (h.2 a ha)⟩⟩

theorem spec (h : Follows P w w') : w'.tc.spec = w.tc.spec := by rw [h.1]

theorem name (h : Follows P w w') : w'.tc.name = w.tc.name := by rw [h.1]

theorem ns (h : Follows P w w') : w'.tc.ns = w.tc.ns := by rw [h.1]

end World.Follows

/-- Every run of `x` leaves a state that follows the one it starts in by actions satisfying `P`. -/
def Confined (P : Action → Prop) {α : Type} (x : SyncM α) : Prop :=
  ∀ w, World.Follows P w (outcomeWorld (x w))

namespace Confined

variable {P : Action → Prop} {α β : Type}

theorem bind {x : SyncM α} {f : α → SyncM β} (hx : Confined P x) (hf : ∀ a, Confined P (f a)) :
    Confined P (x >>= f) := by
  intro w
  have h := hx w
  rw [bind_run]
  cases hr : x w with
  | ok a w' => rw [hr] at h; exact h.trans (hf a w')
  | error e w' => rw [hr] at h; exact h

theorem pure (a : α) : Confined P (pure a : SyncM α) := fun w => .refl P w

theorem throw (e : Error) : Confined P (throw e : SyncM α) := fun w => .refl P w

theorem read (r : Except Error α) : Confined P (read r) := by
  cases r with
  | ok a => exact Confined.pure a
  | error e => exact Confined.throw e

theorem getTc : Confined P getTc := fun w => .refl P w

theorem modifyTiKV (f : TiKVStatus → TiKVStatus) : Confined P (modifyTiKV f) :=
  fun w => ⟨rfl, [], by simp, by simp⟩

theorem emit {a : Action} (ha : P a) (r : Except Error α) : Confined P (emit a r) :=
  fun w => ⟨by cases r <;> rfl, [a], by simp, by simpa using ha⟩

theorem call {a : Action} (ha : P a) (r : Except Error (TikvClusterStatus × α)) :
    Confined P (call a r) := by
  intro w
  rw [call_run]
  cases r with
  | ok p => exact ⟨rfl, [a], by simp, by simpa using ha⟩
  | error e => exact ⟨rfl, [a], by simp, by simpa using ha⟩

theorem mono {Q : Action → Prop} (hPQ : ∀ a, P a → Q a) {x : SyncM α} (hx : Confined P x) :
    Confined Q x := fun w => (hx w).mono hPQ

end Confined

end TikvOperator
